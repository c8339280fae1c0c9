import EnvAudit.Json.Basic
import EnvAudit.Binary64.Decimal

/-!
# Reading JSON

`Json.read` reads one value with blanks around it. Beyond the standard grammar it takes the words
`NaN`, `Infinity` and `-Infinity`; controls inside strings are refused. Numbers without fraction and
exponent are whole numbers, of at most 4300 digits. A text that is refused is refused at its first
fault, whose place is counted in characters.
-/

namespace EnvAudit.Json

inductive Flaw where
  | byteOrderMark
  | extraData
  | value
  | memberName
  | colon
  | comma
  | unterminatedString
  | controlCharacter
  | escape
  | unicodeEscape
  deriving DecidableEq, Repr

def Flaw.message : Flaw → String
  | byteOrderMark => "Unexpected UTF-8 BOM (decode using utf-8-sig)"
  | extraData => "Extra data"
  | value => "Expecting value"
  | memberName => "Expecting property name enclosed in double quotes"
  | colon => "Expecting ':' delimiter"
  | comma => "Expecting ',' delimiter"
  | unterminatedString => "Unterminated string starting at"
  | controlCharacter => "Invalid control character at"
  | escape => "Invalid \\escape"
  | unicodeEscape => "Invalid \\uXXXX escape"

/-- Why reading stopped; `left` counts the characters from the fault to the end of the text. -/
inductive Stop where
  | flaw (kind : Flaw) (left : Nat)
  | tooManyDigits (count : Nat)
  deriving DecidableEq, Repr

inductive ReadError where
  | flaw (kind : Flaw) (line column position : Nat)
  | tooManyDigits (count : Nat)
  deriving DecidableEq, Repr

def ReadError.message : ReadError → String
  | flaw kind line column position =>
    kind.message ++ ": line " ++ toString line ++ " column " ++ toString column ++ " (char " ++
      toString position ++ ")"
  | tooManyDigits count => Numeral.tooManyDigitsRead count

def isGap (c : Char) : Bool := c == ' ' || c == '\t' || c == '\n' || c == '\r'

def skipGap (s : List Char) : List Char := s.dropWhile isGap

def readUnit? : List Char → Option (Nat × List Char)
  | a :: b :: c :: d :: rest => do
    let a ← Numeral.hexValue? a
    let b ← Numeral.hexValue? b
    let c ← Numeral.hexValue? c
    let d ← Numeral.hexValue? d
    if rest.isEmpty then none else some (((a * 16 + b) * 16 + c) * 16 + d, rest)
  | _ => none

def shortEscape? (c : Char) : Option Char :=
  if c == '"' || c == '\\' || c == '/' then some c
  else if c == 'b' then some '\x08'
  else if c == 'f' then some '\x0c'
  else if c == 'n' then some '\n'
  else if c == 'r' then some '\r'
  else if c == 't' then some '\t'
  else none

def readLowHalf? : List Char → Except Stop (Option (Nat × List Char))
  | '\\' :: 'u' :: rest =>
    if rest.length < 5 then .ok none
    else
      match readUnit? rest with
      | none => .error (.flaw .unicodeEscape (rest.length + 1))
      | some (low, rest) =>
        if 0xdc00 ≤ low && low ≤ 0xdfff then .ok (some (low, rest)) else .ok none
  | _ => .ok none

/-- Reads the characters of a string up to its closing quote; `opened` counts the characters left at
the opening quote. A half of a surrogate pair that stands alone becomes a replacement character. -/
def readChars (opened : Nat) : Nat → List Char → Except Stop (List Char × List Char)
  | 0, _ => .error (.flaw .unterminatedString opened)
  | _ + 1, [] => .error (.flaw .unterminatedString opened)
  | fuel + 1, c :: rest =>
    if c == '"' then .ok ([], rest)
    else if c == '\\' then
      match rest with
      | [] => .error (.flaw .unterminatedString opened)
      | 'u' :: digits =>
        match readUnit? digits with
        | none => .error (.flaw .unicodeEscape rest.length)
        | some (high, tail) =>
          if 0xd800 ≤ high && high ≤ 0xdbff then do
            match ← readLowHalf? tail with
            | some (low, tail) =>
              let (chars, after) ← readChars opened fuel tail
              .ok (Char.ofNat (0x10000 + (high - 0xd800) * 0x400 + (low - 0xdc00)) :: chars, after)
            | none =>
              let (chars, after) ← readChars opened fuel tail
              .ok ('\ufffd' :: chars, after)
          else do
            let (chars, after) ← readChars opened fuel tail
            let char := if 0xdc00 ≤ high && high ≤ 0xdfff then '\ufffd' else Char.ofNat high
            .ok (char :: chars, after)
      | e :: tail =>
        match shortEscape? e with
        | none => .error (.flaw .escape (rest.length + 1))
        | some char => do
          let (chars, after) ← readChars opened fuel tail
          .ok (char :: chars, after)
    else if c.toNat < 0x20 then .error (.flaw .controlCharacter (rest.length + 1))
    else do
      let (chars, after) ← readChars opened fuel rest
      .ok (c :: chars, after)

def readString (s : List Char) : Except Stop (String × List Char) := do
  let (chars, rest) ← readChars (s.length + 1) (s.length + 1) s
  .ok (String.ofList chars, rest)

def spanWhole : List Char → List Char × List Char
  | '0' :: rest => (['0'], rest)
  | s => Binary64.spanDigits s

def spanFraction : List Char → List Char × List Char
  | '.' :: rest =>
    let (digits, after) := Binary64.spanDigits rest
    if digits.isEmpty then ([], '.' :: rest) else (digits, after)
  | s => ([], s)

def spanExponent (s : List Char) : Option Int × List Char :=
  match s with
  | [] => (none, s)
  | c :: rest =>
    if c == 'e' || c == 'E' then
      let (negative, rest) := Binary64.takeSign rest
      let (digits, after) := Binary64.spanDigits rest
      if digits.isEmpty then (none, s)
      else
        let n := Int.ofNat (Numeral.ofDigits digits)
        (some (if negative then -n else n), after)
    else (none, s)

def readNumber? (negative : Bool) (s : List Char) : Option (Except Stop (Json × List Char)) :=
  let (whole, rest) := spanWhole s
  if whole.isEmpty then none
  else
    let (fraction, rest) := spanFraction rest
    let (exponent, rest) := spanExponent rest
    if fraction.isEmpty && exponent.isNone then
      if Numeral.maxDigits < whole.length then some (.error (.tooManyDigits whole.length))
      else
        let n := Int.ofNat (Numeral.ofDigits whole)
        some (.ok (int (if negative then -n else n), rest))
    else
      some (.ok (float (Binary64.Notation.value ⟨negative, whole, fraction, exponent.getD 0⟩), rest))

def dropWord? (word : List Char) (s : List Char) : Option (List Char) :=
  if word.isPrefixOf s then some (s.drop word.length) else none

def words : List (List Char × Json) :=
  [("null".toList, null), ("true".toList, bool true), ("false".toList, bool false),
    ("NaN".toList, float .nan), ("Infinity".toList, float (.infinite false)),
    ("-Infinity".toList, float (.infinite true))]

def readAtom (s : List Char) : Except Stop (Json × List Char) :=
  match words.findSome? fun (word, value) => (dropWord? word s).map fun rest => (value, rest) with
  | some result => .ok result
  | none =>
    let number :=
      match s with
      | '-' :: rest => readNumber? true rest
      | s => readNumber? false s
    match number with
    | some result => result
    | none => .error (.flaw .value s.length)

mutual

def readValue : Nat → List Char → Except Stop (Json × List Char)
  | 0, s => .error (.flaw .value s.length)
  | fuel + 1, s =>
    match s with
    | '"' :: rest => do
      let (text, rest) ← readString rest
      .ok (str text, rest)
    | '[' :: rest =>
      match skipGap rest with
      | ']' :: rest => .ok (arr [], rest)
      | rest => do
        let (items, rest) ← readItems fuel rest
        .ok (arr items, rest)
    | '{' :: rest =>
      match skipGap rest with
      | '}' :: rest => .ok (obj [], rest)
      | rest => do
        let (members, rest) ← readMembers fuel [] rest
        .ok (obj members, rest)
    | s => readAtom s

def readItems : Nat → List Char → Except Stop (List Json × List Char)
  | 0, s => .error (.flaw .value s.length)
  | fuel + 1, s => do
    let (item, rest) ← readValue fuel s
    match skipGap rest with
    | ']' :: rest => .ok ([item], rest)
    | ',' :: rest =>
      let (items, rest) ← readItems fuel (skipGap rest)
      .ok (item :: items, rest)
    | rest => .error (.flaw .comma rest.length)

def readMembers : Nat → List (String × Json) → List Char →
    Except Stop (List (String × Json) × List Char)
  | 0, _, s => .error (.flaw .memberName s.length)
  | fuel + 1, before, s =>
    match s with
    | '"' :: rest => do
      let (name, rest) ← readString rest
      match skipGap rest with
      | ':' :: rest =>
        let (value, rest) ← readValue fuel (skipGap rest)
        let members := setMember before name value
        match skipGap rest with
        | '}' :: rest => .ok (members, rest)
        | ',' :: rest => readMembers fuel members (skipGap rest)
        | rest => .error (.flaw .comma rest.length)
      | rest => .error (.flaw .colon rest.length)
    | s => .error (.flaw .memberName s.length)

end

def readText (s : List Char) : Except Stop Json :=
  match s with
  | '\ufeff' :: _ => .error (.flaw .byteOrderMark s.length)
  | _ => do
    let (value, rest) ← readValue (2 * s.length + 2) (skipGap s)
    match skipGap rest with
    | [] => .ok value
    | rest => .error (.flaw .extraData rest.length)

def lineColumn (before : List Char) : Nat × Nat :=
  (before.count '\n' + 1, (before.reverse.takeWhile (· != '\n')).length + 1)

def read (text : String) : Except ReadError Json :=
  let s := text.toList
  match readText s with
  | .ok value => .ok value
  | .error (.tooManyDigits count) => .error (.tooManyDigits count)
  | .error (.flaw kind left) =>
    let position := s.length - left
    let (line, column) := lineColumn (s.take position)
    .error (.flaw kind line column position)

end EnvAudit.Json
