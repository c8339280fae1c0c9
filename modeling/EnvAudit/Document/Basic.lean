import EnvAudit.Binary64.Decimal
import EnvAudit.Host
import EnvAudit.Json.Basic
import EnvAudit.Numeral
import EnvAudit.Text.Quoted

/-!
# Documents

Decoded configuration and schema documents. They hold what JSON and YAML texts can denote: JSON's values
and further dates, timestamps, bytes, sets and pairs, and mappings whose keys are of any kind. `display`
is the form in which a value that is not a text is shown.
-/

namespace EnvAudit

structure Date where
  year : Nat
  month : Nat
  day : Nat
  deriving DecidableEq, Repr, Inhabited

structure Timestamp where
  date : Date
  hour : Nat
  minute : Nat
  second : Nat
  micro : Nat
  offset : Option Int
  deriving DecidableEq, Repr, Inhabited

inductive Document where
  | null
  | bool (value : Bool)
  | int (value : Int)
  | float (value : Binary64)
  | text (value : String)
  | list (items : List Document)
  | map (entries : List (Document × Document))
  | set (items : List Document)
  | pair (first second : Document)
  | bytes (value : List UInt8)
  | date (value : Date)
  | timestamp (value : Timestamp)
  deriving Repr, Inhabited

namespace Date

def display (d : Date) : List Char :=
  let pad := fun width n => Numeral.zeroPad width (Numeral.digits n)
  pad 4 d.year ++ '-' :: pad 2 d.month ++ '-' :: pad 2 d.day

end Date

namespace Timestamp

def spellOffset (minutes : Int) : String :=
  if minutes == 0 then "datetime.timezone.utc"
  else
    let days := if minutes < 0 then "days=-1, " else ""
    let seconds := if minutes < 0 then 86400 + minutes * 60 else minutes * 60
    "datetime.timezone(datetime.timedelta(" ++ days ++ "seconds=" ++ Numeral.render seconds ++ "))"

def display (t : Timestamp) : List Char :=
  let pad := fun width n => Numeral.zeroPad width (Numeral.digits n)
  let zone :=
    match t.offset with
    | none => []
    | some minutes =>
      (if minutes < 0 then '-' else '+') :: pad 2 (minutes.natAbs / 60) ++ ':' ::
        pad 2 (minutes.natAbs % 60)
  t.date.display ++ ' ' :: pad 2 t.hour ++ ':' :: pad 2 t.minute ++ ':' :: pad 2 t.second ++
    (if t.micro == 0 then [] else '.' :: pad 6 t.micro) ++ zone

def spell (t : Timestamp) : String :=
  let tail := if t.micro != 0 then [t.second, t.micro] else if t.second != 0 then [t.second] else []
  let numbers := [t.date.year, t.date.month, t.date.day, t.hour, t.minute] ++ tail
  let zone :=
    match t.offset with
    | none => ""
    | some minutes => ", tzinfo=" ++ spellOffset minutes
  "datetime.datetime(" ++ ", ".intercalate (numbers.map fun (n : Nat) => Numeral.render n) ++ zone ++ ")"

end Timestamp

namespace Document

def spellByte (quote : Char) (b : UInt8) : List Char :=
  let c := Char.ofNat b.toNat
  if c == quote || c == '\\' then ['\\', c]
  else if c == '\t' then ['\\', 't']
  else if c == '\n' then ['\\', 'n']
  else if c == '\r' then ['\\', 'r']
  else if 0x20 ≤ b.toNat && b.toNat < 0x7f then [c]
  else '\\' :: 'x' :: Text.hex 2 b.toNat

def spellBytes (bytes : List UInt8) : String :=
  let quote := if bytes.contains 0x27 && !bytes.contains 0x22 then '"' else '\''
  String.ofList ('b' :: quote :: bytes.flatMap (spellByte quote) ++ [quote])

inductive Hidden where
  | tooLong (message : String)
  | tooDeep
  deriving DecidableEq, Repr

def Hidden.message : Hidden → String
  | tooLong message => message
  | tooDeep => Raised.exhausted.message

section
variable [Host]

mutual

/-- The form in which a value is shown inside a list or mapping; `level` others are around it. Whole numbers with too
many digits have none, and neither has what stands too deep. -/
def spell (level : Nat) (d : Document) : Except Hidden String :=
  if Host.maxDepth < level then .error .tooDeep
  else
    match d with
    | null => .ok "None"
    | bool true => .ok "True"
    | bool false => .ok "False"
    | int n => (Numeral.render? n).mapError .tooLong
    | float x => .ok x.render
    | text s => .ok (Text.quoted s)
    | list items => (spellItems (level + 1) items).map fun parts => "[" ++ ", ".intercalate parts ++ "]"
    | set [] => .ok "set()"
    -- A set is shown by way of a list.
    | set items => (spellItems (level + 2) items).map fun parts => "\x7b" ++ ", ".intercalate parts ++ "\x7d"
    | map entries =>
      (spellEntries (level + 1) entries).map fun parts => "\x7b" ++ ", ".intercalate parts ++ "\x7d"
    | pair first second => do
      let first ← spell (level + 1) first
      let second ← spell (level + 1) second
      return "(" ++ first ++ ", " ++ second ++ ")"
    | bytes value => .ok (spellBytes value)
    | date d => .ok ("datetime.date(" ++ ", ".intercalate ([d.year, d.month, d.day].map fun (n : Nat) =>
        Numeral.render n) ++ ")")
    | timestamp t => .ok t.spell

def spellItems (level : Nat) : List Document → Except Hidden (List String)
  | [] => .ok []
  | item :: items => do
    let item ← spell level item
    return item :: (← spellItems level items)

def spellEntries (level : Nat) : List (Document × Document) → Except Hidden (List String)
  | [] => .ok []
  | (key, value) :: entries => do
    let key ← spell level key
    let value ← spell level value
    return (key ++ ": " ++ value) :: (← spellEntries level entries)

end

def display : Document → Except Hidden String
  | text s => .ok s
  | date d => .ok (String.ofList d.display)
  | timestamp t => .ok (String.ofList t.display)
  | other => other.spell 0

end

def kindName : Document → String
  | null => "NoneType"
  | bool _ => "bool"
  | int _ => "int"
  | float _ => "float"
  | text _ => "str"
  | list _ => "list"
  | map _ => "dict"
  | set _ => "set"
  | pair .. => "tuple"
  | bytes _ => "bytes"
  | date _ => "datetime.date"
  | timestamp _ => "datetime.datetime"

/-- Whether two keys name the same entry: numbers do so by value, whole numbers exactly. -/
def sameKey : Document → Document → Bool
  | null, null => true
  | text s, text t => s == t
  | bool a, bool b => a == b
  | int m, int n => m == n
  | bool b, int n | int n, bool b => n == (if b then 1 else 0)
  | float x, float y => x != .nan && (x == y || (x.toInt? == some 0 && y.toInt? == some 0))
  | float x, int n | int n, float x => x.toInt? == some n
  | float x, bool b | bool b, float x => x.toInt? == some (if b then 1 else 0)
  | bytes a, bytes b => a == b
  | date a, date b => a == b
  | timestamp a, timestamp b => a == b
  | pair a b, pair c d => a.sameKey c && b.sameKey d
  | _, _ => false

def setEntry (entries : List (Document × Document)) (key value : Document) :
    List (Document × Document) :=
  if entries.any (·.1.sameKey key) then
    entries.map fun entry => if entry.1.sameKey key then (entry.1, value) else entry
  else entries ++ [(key, value)]

def valueOf? (entries : List (Document × Document)) (key : String) : Option Document :=
  (entries.find? fun entry => entry.1.sameKey (text key)).map (·.2)

end Document

namespace Json

mutual

def toDocument : Json → Document
  | .null => .null
  | .bool b => .bool b
  | .int n => .int n
  | .float x => .float x
  | .str s => .text s
  | .arr items => .list (itemsToDocuments items)
  | .obj members => .map (membersToEntries members)

def itemsToDocuments : List Json → List Document
  | [] => []
  | item :: items => item.toDocument :: itemsToDocuments items

def membersToEntries : List (String × Json) → List (Document × Document)
  | [] => []
  | (name, value) :: members => (.text name, value.toDocument) :: membersToEntries members

end

end Json

end EnvAudit
