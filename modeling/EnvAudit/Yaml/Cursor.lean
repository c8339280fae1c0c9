namespace EnvAudit.Yaml

/-- Why a text denotes no document. A text that is no YAML is malformed; the others are values that the tag
of a node does not admit. -/
inductive Fault where
  | malformed
  | badValue (message : String)
  | tooLarge (message : String)
  | unknownWord (word : String)
  | emptyNumber
  | noTimestamp
  deriving DecidableEq, Repr

structure Cursor where
  rest : List Char
  index : Nat := 0
  line : Nat := 0
  column : Nat := 0
  deriving Repr, Inhabited

def isBreak (c : Char) : Bool :=
  c == '\n' || c == '\r' || c == '\u0085' || c == '\u2028' || c == '\u2029'

def isLineEnd : Option Char → Bool
  | none => true
  | some c => isBreak c

def isSpaceEnd : Option Char → Bool
  | none => true
  | some c => c == ' ' || isBreak c

def isWordEnd : Option Char → Bool
  | none => true
  | some c => c == ' ' || c == '\t' || isBreak c

def isNameChar (c : Char) : Bool := c.isAlphanum || c == '-' || c == '_'

def isTagChar (c : Char) : Bool := c.isAlphanum || "-;/?:@&=+$,_.!~*'()[]%".toList.contains c

def isAllowed (c : Char) : Bool :=
  let n := c.toNat
  n == 0x09 || n == 0x0a || n == 0x0d || (0x20 ≤ n && n ≤ 0x7e) || n == 0x85 ||
    (0xa0 ≤ n && n ≤ 0xd7ff) || (0xe000 ≤ n && n ≤ 0xfffd) || 0x10000 ≤ n

namespace Cursor

def peek (cursor : Cursor) (distance : Nat := 0) : Option Char := cursor.rest[distance]?

def step (cursor : Cursor) : Cursor :=
  match cursor.rest with
  | [] => cursor
  | c :: rest =>
    let endsLine := isBreak c && !(c == '\r' && rest.head? == some '\n')
    { rest
      index := cursor.index + 1
      line := if endsLine then cursor.line + 1 else cursor.line
      column := if endsLine then 0 else if c == '\ufeff' then cursor.column else cursor.column + 1 }

def steps (cursor : Cursor) : Nat → Cursor
  | 0 => cursor
  | n + 1 => cursor.step.steps n

def atMarker (cursor : Cursor) : Bool :=
  (['-', '-', '-'].isPrefixOf cursor.rest || ['.', '.', '.'].isPrefixOf cursor.rest) &&
    isWordEnd (cursor.peek 3)

end Cursor

abbrev Scan := StateT Cursor (Except Fault)

def malformed {α : Type} : Scan α := throw .malformed

def peek (distance : Nat := 0) : Scan (Option Char) := return (← get).peek distance

def forward (count : Nat := 1) : Scan Unit := modify (·.steps count)

def takeWhile (test : Char → Bool) : Scan (List Char) := do
  let taken := (← get).rest.takeWhile test
  forward taken.length
  return taken

def skipSpaces : Scan Unit := do
  let _ ← takeWhile (· == ' ')

def skipComment : Scan Unit := do
  if (← peek) == some '#' then
    let _ ← takeWhile (!isBreak ·)

def lineBreak : Scan (List Char) := do
  match (← get).rest with
  | '\r' :: '\n' :: _ => forward 2; return ['\n']
  | c :: _ =>
    if c == '\u2028' || c == '\u2029' then forward; return [c]
    else if isBreak c then forward; return ['\n']
    else return []
  | [] => return []

def restOfLine : Scan Unit := do
  skipSpaces
  skipComment
  if !isLineEnd (← peek) then malformed
  let _ ← lineBreak

def fuelLeft : Scan Nat := return (← get).rest.length + 1

end EnvAudit.Yaml
