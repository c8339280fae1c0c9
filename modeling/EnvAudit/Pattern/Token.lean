import EnvAudit.Pattern.Error
import EnvAudit.Pattern.Node

namespace EnvAudit.Pattern

structure Token where
  text : List Char
  position : Nat
  deriving DecidableEq, Repr, Inhabited

def tokensFrom (position : Nat) : List Char → List Token
  | [] => []
  | ['\\'] => [⟨['\\'], position⟩]
  | '\\' :: c :: rest => ⟨['\\', c], position⟩ :: tokensFrom (position + 2) rest
  | c :: rest => ⟨[c], position⟩ :: tokensFrom (position + 1) rest

inductive Failure where
  | flaw (kind : Flaw) (position : Option Nat)
  | countTooLarge
  | classClash

structure ReaderState where
  /-- The tokens that are left. -/
  tokens : List Token
  /-- The length of the pattern. -/
  size : Nat
  /-- The character of a name. -/
  character? : String → Option Char
  flags : Flags := {}
  /-- How many groups are opened, the whole pattern included. -/
  groups : Nat := 1
  /-- The closed groups with their widths. -/
  closed : List (Nat × Width) := []
  names : List (String × Nat) := []
  /-- How many groups there were when the outermost lookbehind began. -/
  lookbehind : Option Nat := none
  /-- The numbers asked for by conditions, with their first positions. -/
  asked : List (Nat × Nat) := []

abbrev Reader := StateT ReaderState (Except Failure)

namespace Reader

def tell : Reader Nat := do
  let s ← get
  return (s.tokens.head?.map (·.position)).getD s.size

def fail {α : Type} (kind : Flaw) (back : Nat := 0) : Reader α := do
  let position ← tell
  throw (.flaw kind (some (position - back)))

def checkNext : Reader Unit := do
  let s ← get
  match s.tokens with
  | ⟨['\\'], position⟩ :: _ => throw (.flaw .danglingEscape (some position))
  | _ => return ()

def peek : Reader (Option (List Char)) := do
  return (← get).tokens.head?.map (·.text)

def next : Reader (Option (List Char)) := do
  let text ← peek
  modify fun s => { s with tokens := s.tokens.drop 1 }
  checkNext
  return text

def accept (c : Char) : Reader Bool := do
  if (← peek) == some [c] then
    let _ ← next
    return true
  else return false

def peekIf (p : Char → Bool) : Reader (Option Char) := do
  match ← peek with
  | some [c] => return if p c then some c else none
  | _ => return none

def takeUpTo (p : Char → Bool) : Nat → Reader (List Char)
  | 0 => return []
  | n + 1 => do
    match ← peekIf p with
    | some c =>
      let _ ← next
      return c :: (← takeUpTo p n)
    | none => return []

def takeAll (p : Char → Bool) : Reader (List Char) := do takeUpTo p ((← get).tokens.length)

def nameUntil (terminator : Char) (what : String) (read : List Char) : Nat → Reader (List Char)
  | 0 => fail (.missingName what)
  | fuel + 1 => do
    match ← next with
    | none =>
      if read.isEmpty then fail (.missingName what)
      else fail (.unterminatedName terminator) read.length
    | some text =>
      if text == [terminator] then
        if read.isEmpty then fail (.missingName what) 1 else return read
      else nameUntil terminator what (read ++ text) fuel

def name (terminator : Char) (what : String) : Reader (List Char) := do
  nameUntil terminator what [] ((← get).tokens.length + 1)

def isClosed (index : Nat) : Reader Bool := do
  let s ← get
  return s.closed.any (·.1 == index)

def checkLookbehind (index : Nat) : Reader Unit := do
  match (← get).lookbehind with
  | none => return ()
  | some bound =>
    if !(← isClosed index) then fail .openGroup
    else if bound ≤ index then fail .groupOfSameLookbehind
    else return ()

def openGroup (name : Option (List Char)) : Reader Nat := do
  let s ← get
  let index := s.groups
  set { s with groups := index + 1 }
  match name with
  | none => return index
  | some text =>
    let name := String.ofList text
    match s.names.find? (·.1 == name) with
    | some (_, previous) => fail (.redefinedGroup name index previous) (text.length + 1)
    | none =>
      modify fun s => { s with names := s.names ++ [(name, index)] }
      return index

def closeGroup (index : Nat) (body : List Node) : Reader Unit :=
  modify fun s => { s with closed := (index, sequenceWidth s.closed body) :: s.closed }

end Reader

end EnvAudit.Pattern
