import EnvAudit.Document.Basic
import EnvAudit.Document.Checked
import EnvAudit.Pattern
import EnvAudit.Text.Utf8

/-!
# Reading values out of documents

Readers for the kinds of values that documents hold. They are lenient where the meaning is plain: a flag may
be spelled as a word or as `0` or `1`, and a number may be written as a text. A record is a mapping with
known fields, each of which goes by two names; the other entries are ignored.
-/

namespace EnvAudit.Document

open Checked (misfit)

/-! ## Scalars -/

def asText : Document → Checked String
  | text s => .ok s
  | bytes value =>
    match Text.Utf8.decode value with
    | .ok chars => .ok (String.ofList chars)
    | .error _ => misfit .textNotUtf8
  | _ => misfit .textExpected

def asName (d : Document) : Checked String :=
  d.asText.andThen fun s => if s.isEmpty then misfit .textTooShort else .ok s

def setWords : List String := ["1", "on", "t", "true", "y", "yes"]

def unsetWords : List String := ["0", "off", "f", "false", "n", "no"]

def flagOfWord (s : String) : Checked Bool :=
  let word := s.toLower
  if setWords.contains word then .ok true
  else if unsetWords.contains word then .ok false
  else misfit .flagUnreadable

def maxWord : Nat := Nat.pow 2 63

def flagOfWhole (n : Int) : Checked Bool :=
  if maxWord ≤ n.natAbs then misfit .flagExpected
  else if n == 1 then .ok true
  else if n == 0 then .ok false
  else misfit .flagUnreadable

def asFlag : Document → Checked Bool
  | bool b => .ok b
  | int n => flagOfWhole n
  | float x =>
    match x.toInt? with
    | some n => flagOfWhole n
    | none => misfit .flagExpected
  | text s => flagOfWord s
  | bytes value =>
    match Text.Utf8.decode value with
    | .ok chars => flagOfWord (String.ofList chars)
    | .error _ => misfit .flagUnreadable
  | _ => misfit .flagExpected

def dropUnderscores (s : List Char) : List Char :=
  let doubled := (s.zip (s.drop 1)).any fun (a, b) => a == '_' && b == '_'
  if doubled || s.head? == some '_' || s.getLast? == some '_' then s else s.filter (· != '_')

def dropZeros (last : Char) : List Char → Option (List Char)
  | [] => some [last]
  | c :: rest =>
    if c == '0' || c == '_' then dropZeros c rest
    else if c == '.' then some (last :: c :: rest)
    else if c.isDigit then some (c :: rest)
    else none

def plainWhole? (s : List Char) : Option Int :=
  let digits := if s.head? == some '-' then s.drop 1 else s
  if digits.isEmpty || !digits.all Char.isDigit || (digits.head? == some '0' && digits != ['0']) then none
  else
    let n := Int.ofNat (Numeral.ofDigits digits)
    some (if s.head? == some '-' then -n else n)

/-- A whole number as it is written in a text: blanks around it, a sign, zeros in front of one without a minus
sign, single underscores, and a fraction of zeros are allowed. -/
def wholeOfText? (s : List Char) : Option Int :=
  let unsigned :=
    match Text.trim s with
    | '+' :: '-' :: _ => none
    | '+' :: rest => some rest
    | s => some s
  let stripped := unsigned.bind fun s =>
    match s with
    | '0' :: rest => dropZeros '0' rest
    | s => some s
  stripped.bind fun s =>
    let whole := s.takeWhile (· != '.')
    let hasWhole := (s.drop (whole.length + 1)).all (· == '0')
    plainWhole? (dropUnderscores (if hasWhole then whole else s))

def wholeOfText (s : List Char) : Checked Int :=
  if Numeral.maxDigits < s.length then misfit .wholeTooLong
  else
    match wholeOfText? s with
    | some n => .ok n
    | none => misfit .wholeUnreadable

def wholeOfFloat (x : Binary64) : Checked Int :=
  if !x.isFinite then misfit .wholeNotFinite
  else
    match x.toInt? with
    | some n => if n.natAbs < maxWord then .ok n else misfit .wholeFromFraction
    | none => misfit .wholeFromFraction

def asWhole : Document → Checked Int
  | bool b => .ok (if b then 1 else 0)
  | int n => .ok n
  | float x => wholeOfFloat x
  | text s => wholeOfText s.toList
  | bytes value =>
    match Text.Utf8.decode value with
    | .ok chars => wholeOfText chars
    | .error _ => misfit .wholeUnreadable
  | _ => misfit .wholeExpected

def numberOfText (s : List Char) : Checked Binary64 :=
  match (Binary64.read? (Text.trim s)).or (Binary64.read? (dropUnderscores s)) with
  | some x => .ok x
  | none => misfit .numberUnreadable

def asNumber : Document → Checked Binary64
  | bool b => .ok (Binary64.ofInt (if b then 1 else 0))
  | int n => if (Binary64.ofInt n).isFinite then .ok (Binary64.ofInt n) else misfit .numberExpected
  | float x => .ok x
  | text s => numberOfText s.toList
  | bytes value =>
    match Text.Utf8.decode value with
    | .ok chars => numberOfText chars
    | .error _ => misfit .numberUnreadable
  | _ => misfit .numberExpected

def asOneOf {α : Type} (unknown : Misfit) (ofWord? : String → Option α) : Document → Checked α
  | text s =>
    match ofWord? s with
    | some value => .ok value
    | none => misfit unknown
  | _ => misfit unknown

def asPattern [Host] : Document → Checked Pattern
  | text s =>
    match Pattern.compile s with
    | .ok pattern => .ok pattern
    | .error .classClash => misfit (.refused Pattern.Error.classClash.message)
    | .error (.flaw ..) => misfit .patternUnreadable
    | .error .countTooLarge => .aborted (.pattern .countTooLarge)
    | .error .tooDeep => .aborted (.pattern .tooDeep)
  | bytes _ => misfit .patternNotText
  | _ => misfit .patternExpected

def asOptional {α : Type} (read : Document → Checked α) : Document → Checked (Option α)
  | null => .ok none
  | other => some <$> read other

/-! ## Containers -/

def items? : Document → Option (List Document)
  | list items => some items
  | set items => some items
  | pair first second => some [first, second]
  | _ => none

def readItems {α : Type} (read : Document → Checked α) (position : Int) : List Document → Checked (List α)
  | [] => .ok []
  | item :: items =>
    (fun value values => value :: values) <$> (read item).within (.index position) <*>
      readItems read (position + 1) items

def asList {α : Type} (read : Document → Checked α) (d : Document) : Checked (List α) :=
  match d.items? with
  | some items => readItems read 0 items
  | none => misfit .listExpected

def keyStep [Host] : Document → Step
  | text s => .name s
  | int n => .index n
  | bool b => .index (if b then 1 else 0)
  | other =>
    match other.display with
    | .ok s => .name s
    | .error hidden => .name hidden.message

def readEntries [Host] {α : Type} (read : Document → Checked α) :
    List (Document × Document) → Checked (List (String × α))
  | [] => .ok []
  | (key, value) :: entries =>
    let key' := (key.asText.within (.name "[key]")).within (keyStep key)
    let value' := (read value).within (keyStep key)
    (fun key value entries => (key, value) :: entries) <$> key' <*> value' <*> readEntries read entries

def asMap [Host] {α : Type} (read : Document → Checked α) : Document → Checked (List (String × α))
  | map entries => readEntries read entries
  | _ => misfit .mapExpected

/-! ## Records -/

structure Field where
  name : String
  camelName : String
  deriving DecidableEq, Repr

def Field.plain (name : String) : Field := ⟨name, name⟩

def field? (entries : List (Document × Document)) (field : Field) : Option (String × Document) :=
  match valueOf? entries field.camelName with
  | some value => some (field.camelName, value)
  | none => (valueOf? entries field.name).map fun value => (field.name, value)

def requiredField {α : Type} (read : Document → Checked α) (field : Field)
    (entries : List (Document × Document)) : Checked α :=
  match field? entries field with
  | some (name, value) => (read value).within (.name name)
  | none => (misfit .missing).within (.name field.camelName)

def optionalField {α : Type} (read : Document → Checked α) (field : Field) (absent : α)
    (entries : List (Document × Document)) : Checked α :=
  match field? entries field with
  | some (name, value) => (read value).within (.name name)
  | none => .ok absent

def asRecord {α : Type} (read : List (Document × Document) → Checked α) : Document → Checked α
  | map entries => read entries
  | _ => misfit .recordExpected

end EnvAudit.Document
