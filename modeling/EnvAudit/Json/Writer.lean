import EnvAudit.Json.Basic
import EnvAudit.Binary64.Decimal
import EnvAudit.Text.Quoted

namespace EnvAudit.Json

structure Layout where
  /-- Spaces per level, or everything on one line. -/
  indent : Option Nat := none
  /-- Whether characters beyond ASCII are written as escapes. -/
  ascii : Bool := true

def unitEscape (n : Nat) : List Char := '\\' :: 'u' :: Text.hex 4 n

def escapeChar (ascii : Bool) (c : Char) : List Char :=
  if c == '"' || c == '\\' then ['\\', c]
  else if c == '\n' then ['\\', 'n']
  else if c == '\r' then ['\\', 'r']
  else if c == '\t' then ['\\', 't']
  else if c.toNat == 0x08 then ['\\', 'b']
  else if c.toNat == 0x0c then ['\\', 'f']
  else if c.toNat < 0x20 then unitEscape c.toNat
  else if !ascii || c.toNat < 0x7f then [c]
  else if c.toNat < 0x10000 then unitEscape c.toNat
  else
    let n := c.toNat - 0x10000
    unitEscape (0xd800 + n / 0x400) ++ unitEscape (0xdc00 + n % 0x400)

def writeString (ascii : Bool) (s : String) : List Char :=
  '"' :: s.toList.flatMap (escapeChar ascii) ++ ['"']

def writeFloat (x : Binary64) : List Char :=
  match x with
  | .nan => "NaN".toList
  | .infinite negative => (if negative then "-Infinity" else "Infinity").toList
  | x => x.render.toList

def Layout.breakAt (layout : Layout) (level : Nat) : List Char :=
  match layout.indent with
  | some width => '\n' :: List.replicate (width * level) ' '
  | none => []

def Layout.separator (layout : Layout) (level : Nat) : List Char :=
  match layout.indent with
  | some _ => ',' :: layout.breakAt level
  | none => [',', ' ']

mutual

def writeAt (layout : Layout) (level : Nat) : Json → List Char
  | null => "null".toList
  | bool value => (if value then "true" else "false").toList
  | int value => (Numeral.render value).toList
  | float value => writeFloat value
  | str value => writeString layout.ascii value
  | arr [] => ['[', ']']
  | arr (first :: rest) =>
    '[' :: layout.breakAt (level + 1) ++ writeAt layout (level + 1) first ++
      writeItems layout level rest
  | obj [] => ['{', '}']
  | obj ((name, value) :: rest) =>
    '{' :: layout.breakAt (level + 1) ++ writeString layout.ascii name ++ ':' :: ' ' ::
      writeAt layout (level + 1) value ++ writeMembers layout level rest

def writeItems (layout : Layout) (level : Nat) : List Json → List Char
  | [] => layout.breakAt level ++ [']']
  | item :: rest =>
    layout.separator (level + 1) ++ writeAt layout (level + 1) item ++ writeItems layout level rest

def writeMembers (layout : Layout) (level : Nat) : List (String × Json) → List Char
  | [] => layout.breakAt level ++ ['}']
  | (name, value) :: rest =>
    layout.separator (level + 1) ++ writeString layout.ascii name ++ ':' :: ' ' ::
      writeAt layout (level + 1) value ++ writeMembers layout level rest

end

def write (layout : Layout) (value : Json) : String := String.ofList (writeAt layout 0 value)

mutual

def fits : Json → Bool
  | int value => value.natAbs < Nat.pow 10 Numeral.maxDigits
  | arr items => itemsFit items
  | obj members => membersFit members
  | null | bool _ | float _ | str _ => true

def itemsFit : List Json → Bool
  | [] => true
  | item :: items => item.fits && itemsFit items

def membersFit : List (String × Json) → Bool
  | [] => true
  | (_, value) :: members => value.fits && membersFit members

end

def write? (layout : Layout) (value : Json) : Except String String :=
  if value.fits then .ok (write layout value) else .error Numeral.tooManyDigitsWritten

example : write {} (obj [("a", arr [int 1, str "é\n"])]) = "\x7b\"a\": [1, \"\\u00e9\\n\"]\x7d" := by
  decide +kernel

end EnvAudit.Json
