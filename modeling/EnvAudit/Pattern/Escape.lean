import EnvAudit.Pattern.Token
import EnvAudit.Numeral

namespace EnvAudit.Pattern

open Reader

def isOctal (c : Char) : Bool := '0' ≤ c && c ≤ '7'

def valueIn (base : Nat) (digits : List Char) : Nat :=
  digits.foldl (fun value c => value * base + ((Numeral.hexValue? c).getD 0)) 0

def isHex (c : Char) : Bool := (Numeral.hexValue? c).isSome

def controlCode? : Char → Option Nat
  | 'a' => some 7
  | 'b' => some 8
  | 'f' => some 12
  | 'n' => some 10
  | 'r' => some 13
  | 't' => some 9
  | 'v' => some 11
  | '\\' => some 92
  | _ => none

def category? : Char → Option (Category × Bool)
  | 'd' => some (.digit, false)
  | 'D' => some (.digit, true)
  | 's' => some (.space, false)
  | 'S' => some (.space, true)
  | 'w' => some (.word, false)
  | 'W' => some (.word, true)
  | _ => none

def place? : Char → Option Place
  | 'A' => some .textStart
  | 'b' => some .wordEdge
  | 'B' => some .noWordEdge
  | 'Z' => some .textEnd
  | _ => none

def hexEscape (letter : Char) (count : Nat) : Reader Nat := do
  let digits ← takeUpTo isHex count
  let escape := '\\' :: letter :: digits
  if digits.length < count then fail (.incompleteEscape (String.ofList escape)) escape.length
  let code := valueIn 16 digits
  if 0x10ffff < code then fail (.badEscape (String.ofList escape)) escape.length
  return code

def namedEscape : Reader Nat := do
  if !(← accept '\x7b') then fail .missingBrace
  let name ← Reader.name '\x7d' "character name"
  match (← get).character? (String.ofList name) with
  | some c => return c.toNat
  | none => fail (.undefinedCharacter (String.ofList name)) (name.length + 4)

def selfEscape (c : Char) : Reader Nat := do
  if c.isAlphanum then fail (.badEscape (String.ofList ['\\', c])) 2
  return c.toNat

def commonEscape (c : Char) : Reader Nat := do
  if c == 'x' then hexEscape c 2
  else if c == 'u' then hexEscape c 4
  else if c == 'U' then hexEscape c 8
  else if c == 'N' then namedEscape
  else selfEscape c

def octalCode (digits : List Char) : Reader Nat := do
  let code := valueIn 8 digits
  let escape := '\\' :: digits
  if 0xff < code then fail (.octalTooLarge (String.ofList escape)) escape.length
  return code

def setEscape (c : Char) : Reader SetItem := do
  match controlCode? c, category? c with
  | some code, _ => return .char code
  | none, some (kind, negated) => return .category kind negated
  | none, none =>
    if isOctal c then return .char (← octalCode (c :: (← takeUpTo isOctal 2)))
    else return .char (← commonEscape c)

/-- Reads an escape that starts with a digit other than zero: three octal digits are a character, any
others the number of a group. -/
def digitEscape (c : Char) : Reader Node := do
  let second ← takeUpTo Char.isDigit 1
  let third ← if isOctal c && second.any isOctal then takeUpTo isOctal 1 else pure []
  let digits := c :: second ++ third
  if !third.isEmpty then return .char (← octalCode digits)
  else
    let index := valueIn 10 digits
    if index < (← get).groups then
      if !(← isClosed index) then fail .openGroup (digits.length + 1)
      checkLookbehind index
      return .backref index
    else fail (.invalidGroup index) digits.length

def escape (c : Char) : Reader Node := do
  match place? c, category? c, controlCode? c with
  | some kind, _, _ => return .place kind
  | none, some (kind, negated), _ => return .set false [.category kind negated]
  | none, none, some code => return .char code
  | none, none, none =>
    if c == '0' then return .char (valueIn 8 (c :: (← takeUpTo isOctal 2)))
    else if c.isDigit then digitEscape c
    else return .char (← commonEscape c)

end EnvAudit.Pattern
