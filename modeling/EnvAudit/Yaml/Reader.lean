import EnvAudit.Document.Basic
import EnvAudit.Text.Blank
import EnvAudit.Text.Split
import EnvAudit.Value.Number
import EnvAudit.Yaml.Node

/-!
# Reading YAML

The document that a YAML text denotes. Each standard tag reads the nodes that carry it; other tags mean
nothing and are faults. The entries of merged mappings come before those of the mapping itself, which win.
-/

namespace EnvAudit.Yaml

open Binary64 (takeSign)

/-! ## Numbers -/

def signed (text : String) : Except Fault (Bool × List Char) :=
  match text.toList.filter (· != '_') with
  | [] => .error .emptyNumber
  | s => .ok (takeSign s)

def dropBase (base : Nat) (s : List Char) : List Char :=
  match s with
  | '0' :: c :: digits => if Value.baseOf? c == some base then digits else s
  | _ => s

def readDigits (base : Nat) (s : List Char) : Except Fault Int :=
  let (negative, rest) := takeSign ((Text.trim s).map Value.plainNumeral)
  let digits := dropBase base rest
  let bad := "invalid literal for int() with base " ++ toString base ++ ": " ++
    Text.quoted (String.ofList s)
  if digits.isEmpty || !digits.all (Value.isDigitOf base) then .error (.badValue bad)
  else if base == 10 && Numeral.maxDigits < digits.length then
    .error (.badValue (Numeral.tooManyDigitsRead digits.length))
  else
    let n := (digits.filterMap Numeral.hexValue?).foldl (fun n d => n * base + d) 0
    .ok (if negative then -Int.ofNat n else Int.ofNat n)

def readMagnitude (s : List Char) : Except Fault Int :=
  match s with
  | [] => .error .emptyNumber
  | ['0'] => .ok 0
  | '0' :: 'b' :: digits => readDigits 2 digits
  | '0' :: 'x' :: digits => readDigits 16 digits
  | '0' :: _ => readDigits 8 s
  | _ =>
    if s.contains ':' then do
      let parts ← (Text.splitAll ':' s).mapM (readDigits 10)
      return parts.foldl (fun n part => n * 60 + part) 0
    else readDigits 10 s

def readInt (text : String) : Except Fault Int := do
  let (negative, s) ← signed text
  let n ← readMagnitude s
  return if negative then -n else n

def readDecimal (s : List Char) : Except Fault Binary64 :=
  match Binary64.read? ((Text.trim s).map Value.plainNumeral) with
  | some x => .ok x
  | none =>
    .error (.badValue ("could not convert string to float: " ++ Text.quoted (String.ofList s)))

def addParts (weight : Nat) (total : Binary64) : List Binary64 → Binary64
  | [] => total
  | part :: parts => addParts (weight * 60) (total.add (part.mul (.ofInt weight))) parts

def readSize (s : List Char) : Except Fault Binary64 :=
  if s == ".inf".toList then .ok (.infinite false)
  else if s == ".nan".toList then .ok .nan
  else if s.contains ':' then do
    return addParts 1 .zero (← (Text.splitAll ':' s).mapM readDecimal).reverse
  else readDecimal s

def readFloat (text : String) : Except Fault Binary64 := do
  let (negative, s) ← signed (Text.lower text)
  let x ← readSize s
  return if negative then x.neg else x

/-! ## Flags, dates and bytes -/

def readFlag (text : String) : Except Fault Bool :=
  let word := Text.lower text
  if ["yes", "true", "on"].contains word then .ok true
  else if ["no", "false", "off"].contains word then .ok false
  else .error (.unknownWord word)

def timestampForm : Pattern.Plain := .ofText
  ("^([0-9][0-9][0-9][0-9])-([0-9][0-9]?)-([0-9][0-9]?)" ++
    "(?:(?:[Tt]|[ \\t]+)([0-9][0-9]?):([0-9][0-9]):([0-9][0-9])(?:\\.([0-9]*))?" ++
    "(?:[ \\t]*(Z|([-+])([0-9][0-9]?)(?::([0-9][0-9]))?))?)?$")

def daysOf (year month : Nat) : Nat :=
  if month == 2 then
    if year % 4 == 0 && (year % 100 != 0 || year % 400 == 0) then 29 else 28
  else if [4, 6, 9, 11].contains month then 30
  else 31

def checkDate (d : Date) : Except Fault Unit :=
  if d.year == 0 then .error (.badValue "year 0 is out of range")
  else if d.month == 0 || 12 < d.month then .error (.badValue "month must be in 1..12")
  else if d.day == 0 || daysOf d.year d.month < d.day then
    .error (.badValue "day is out of range for month")
  else .ok ()

def checkTime (hour minute second : Nat) : Except Fault Unit :=
  if 23 < hour then .error (.badValue "hour must be in 0..23")
  else if 59 < minute then .error (.badValue "minute must be in 0..59")
  else if 59 < second then .error (.badValue "second must be in 0..59")
  else .ok ()

def checkOffset (minutes : Int) : Except Fault Unit :=
  if minutes.natAbs < 1440 then .ok ()
  else
    let days := minutes.fdiv 1440
    let seconds := minutes.fmod 1440 * 60
    .error (.badValue
      ("offset must be a timedelta strictly between -timedelta(hours=24) and timedelta(hours=24), not " ++
        "datetime.timedelta(days=" ++ Numeral.render days ++
        (if seconds == 0 then "" else ", seconds=" ++ Numeral.render seconds) ++ ")."))

def readTimestamp (text : String) : Except Fault Document :=
  match timestampForm.find? text with
  | none => .error .noTimestamp
  | some found => do
    let number := fun group => Numeral.ofDigits ((found.capture? group).getD [])
    let date : Date := ⟨number 1, number 2, number 3⟩
    if (found.capture? 4).isNone then
      checkDate date
      return .date date
    let fraction := ((found.capture? 7).getD []).take 6
    let micro := Numeral.ofDigits (fraction ++ List.replicate (6 - fraction.length) '0')
    let distance := Int.ofNat (number 10 * 60 + number 11)
    let offset :=
      match found.capture? 9 with
      | some sign => some (if sign == ['-'] then -distance else distance)
      | none => (found.capture? 8).map fun _ => 0
    checkOffset (offset.getD 0)
    checkDate date
    checkTime (number 4) (number 5) (number 6)
    return .timestamp ⟨date, number 4, number 5, number 6, micro, offset⟩

def base64Value? (c : Char) : Option Nat :=
  if 'A' ≤ c && c ≤ 'Z' then some (c.toNat - 'A'.toNat)
  else if 'a' ≤ c && c ≤ 'z' then some (c.toNat - 'a'.toNat + 26)
  else if c.isDigit then some (c.toNat - '0'.toNat + 52)
  else if c == '+' then some 62
  else if c == '/' then some 63
  else none

def readBase64 (count bits pads : Nat) : List Char → Except Fault (List UInt8)
  | [] => if count == 0 then .ok [] else .error .malformed
  | c :: rest =>
    if c == '=' then
      if 2 ≤ count && 4 ≤ count + pads + 1 then .ok []
      else readBase64 count bits (if 2 ≤ count then pads + 1 else pads) rest
    else
      match base64Value? c with
      | none => readBase64 count bits pads rest
      | some value =>
        let total := bits * 64 + value
        match count with
        | 0 => readBase64 1 value 0 rest
        | 1 => (readBase64 2 (total % 16) 0 rest).map (UInt8.ofNat (total / 16) :: ·)
        | 2 => (readBase64 3 (total % 4) 0 rest).map (UInt8.ofNat (total / 4) :: ·)
        | _ => (readBase64 0 0 0 rest).map (UInt8.ofNat total :: ·)

def readBytes (text : String) : Except Fault (List UInt8) :=
  if text.toList.all (·.toNat < 0x80) then readBase64 0 0 0 text.toList else .error .malformed

/-! ## Nodes -/

def scalarText : Node → Except Fault String
  | .scalar _ text => .ok text
  | .mapping _ entries =>
    match entries.find? fun (key, _) => key.tag == standardTag "value" with
    | some (_, .scalar _ text) => .ok text
    | _ => .error .malformed
  | .sequence .. => .error .malformed

def isLasting : Document → Bool
  | .list _ | .map _ | .set _ => false
  | _ => true

/-- The entries of mappings that are merged into another one, with their own merged entries in front. -/
def mergedEntries : Nat → List (Node × Node) → Except Fault (List (Node × Node))
  | 0, _ => .error .malformed
  | fuel + 1, entries => do
    let isMerge := fun (entry : Node × Node) => entry.1.tag == standardTag "merge"
    let merged ← (entries.filter isMerge).mapM fun (_, value) =>
      match value with
      | .mapping _ inner => mergedEntries fuel inner
      | .sequence _ items => do
        let parts ← items.mapM fun item =>
          match item with
          | .mapping _ inner => mergedEntries fuel inner
          | _ => .error .malformed
        return parts.reverse.flatten
      | .scalar .. => .error .malformed
    return merged.flatten ++ entries.filter fun entry => !isMerge entry

def keyNode : Node → Node
  | .scalar tag text => .scalar (if tag == standardTag "value" then standardTag "str" else tag) text
  | other => other

def scalarValue (name text : String) : Except Fault Document :=
  match name with
  | "null" => .ok .null
  | "bool" => (readFlag text).map .bool
  | "int" => (readInt text).map .int
  | "float" => (readFloat text).map .float
  | "timestamp" => readTimestamp text
  | "binary" => (readBytes text).map .bytes
  | "str" => .ok (.text text)
  | _ => .error .malformed

def scalarTags : List String := ["null", "bool", "int", "float", "timestamp", "binary", "str"]

def standardName? (tag : String) : Option String :=
  let stem := (standardTag "").toList
  if stem.isPrefixOf tag.toList then some (String.ofList (tag.toList.drop stem.length)) else none

mutual

def value : Nat → Node → Except Fault Document
  | 0, _ => .error .malformed
  | fuel + 1, node =>
    match standardName? node.tag, node with
    | some name, node =>
      if scalarTags.contains name then (scalarText node).bind (scalarValue name)
      else
        match name, node with
        | "seq", .sequence _ items => (items.mapM (value fuel)).map .list
        | "map", .mapping _ entries => (mappingEntries fuel entries).map .map
        | "set", .mapping _ entries => (mappingEntries fuel entries).map fun entries =>
            .set (entries.map (·.1))
        | "omap", .sequence _ items => (items.mapM (pairValue fuel)).map .list
        | "pairs", .sequence _ items => (items.mapM (pairValue fuel)).map .list
        | _, _ => .error .malformed
    | none, _ => .error .malformed

def pairValue : Nat → Node → Except Fault Document
  | 0, _ => .error .malformed
  | fuel + 1, node =>
    match node with
    | .mapping _ [(first, second)] => do
      let first ← value fuel first
      return .pair first (← value fuel second)
    | _ => .error .malformed

def mappingEntries : Nat → List (Node × Node) → Except Fault (List (Document × Document))
  | 0, _ => .error .malformed
  | fuel + 1, entries => do
    let entries ← mergedEntries fuel entries
    let read ← entries.mapM fun (key, content) => do
      let key ← value fuel (keyNode key)
      if !isLasting key then .error .malformed
      return (key, ← value fuel content)
    return read.foldl (fun entries (key, content) => Document.setEntry entries key content) []

end

/-- A bound on the depth of the nodes of a text: every level takes at least one character, and a merged
mapping or a pair takes one more step. -/
def Node.fuel (text : String) : Nat := 3 * text.length + 8

def read (text : String) : Except Fault Document := do
  match ← readNode text with
  | none => return .null
  | some node => value (Node.fuel text) node

end EnvAudit.Yaml
