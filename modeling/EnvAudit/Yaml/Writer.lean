import EnvAudit.Binary64.Decimal
import EnvAudit.Json.Basic
import EnvAudit.Numeral
import EnvAudit.Text.Quoted
import EnvAudit.Yaml.Node

namespace EnvAudit.Yaml

/-! ## The written text -/

def lineWidth : Nat := 80

def maxSimpleKey : Nat := 122

/-- What has been written, last character first: the column, whether a blank was last, and whether the line
holds nothing but indentation and indicators. -/
structure Output where
  text : List Char := []
  column : Nat := 0
  afterBlank : Bool := true
  onlyIndent : Bool := true

abbrev Emit := StateM Output

namespace Emit

def write (s : List Char) : Emit Unit :=
  modify fun out => { out with text := s.reverse ++ out.text, column := out.column + s.length }

def newLine : Emit Unit :=
  modify fun out => { text := '\n' :: out.text, column := 0, afterBlank := true, onlyIndent := true }

def goTo (indent : Nat) : Emit Unit := do
  let out ← get
  if !out.onlyIndent || indent < out.column || (out.column == indent && !out.afterBlank) then newLine
  let out ← get
  if out.column < indent then
    write (List.replicate (indent - out.column) ' ')
    modify fun out => { out with afterBlank := true }

def inText : Emit Unit := modify fun out => { out with afterBlank := false, onlyIndent := false }

def indicator (s : String) (needsBlank keepsIndent : Bool) : Emit Unit := do
  let out ← get
  write (if needsBlank && !out.afterBlank then ' ' :: s.toList else s.toList)
  modify fun new => { new with afterBlank := false, onlyIndent := out.onlyIndent && keepsIndent }

end Emit

open Emit

/-! ## Styles of texts -/

inductive Style where
  | plain
  | single
  | double
  deriving DecidableEq, Repr

def isSpecial (c : Char) : Bool := !(c == '\n' || (0x20 ≤ c.toNat && c.toNat ≤ 0x7e))

def hasPair (first second : Char) : List Char → Bool
  | a :: b :: rest => (a == first && b == second) || hasPair first second (b :: rest)
  | _ => false

def hasInnerIndicator : List Char → Bool
  | a :: b :: rest =>
    (b == ':' && isWordEnd rest.head?) || (b == '#' && isWordEnd (some a)) || hasInnerIndicator (b :: rest)
  | _ => false

def startsSpecial (s : List Char) : Bool :=
  "---".toList.isPrefixOf s || "...".toList.isPrefixOf s ||
    match s with
    | [] => false
    | c :: rest =>
      "#,[]\x7b\x7d&*!|>'\"%@".toList.contains c || c == '\u0060' ||
        ((c == '?' || c == ':' || c == '-') && isWordEnd rest.head?)

def isPlainText (s : List Char) : Bool :=
  !(s.any isSpecial || s.contains '\n' || s.head? == some ' ' || s.getLast? == some ' ' ||
    startsSpecial s || hasInnerIndicator s)

def isSingleText (s : List Char) : Bool :=
  !(s.any isSpecial || hasPair '\n' ' ' s || hasPair ' ' '\n' s)

def styleOf (isKey : Bool) (text : String) : Style :=
  let s := text.toList
  if plainTag text == standardTag "str" && isPlainText s then .plain
  else if isSingleText s && !(isKey && s.contains '\n') then .single
  else .double

/-! ## Writing texts -/

def writeSpaces (indent : Nat) (canBreak : Bool) (count : Nat) : Emit Unit := do
  if canBreak && count == 1 && lineWidth < (← get).column then goTo indent
  else write (List.replicate count ' ')

def writeWords (indent : Nat) (canBreak : Bool) (count : Nat) : List Char → Emit Unit
  | [] => write (List.replicate count ' ')
  | ' ' :: rest => writeWords indent canBreak (count + 1) rest
  | c :: rest => do
    if 0 < count then
      writeSpaces indent canBreak count
      inText
    write [c]
    writeWords indent canBreak 0 rest

def writePlain (indent : Nat) (canBreak : Bool) (s : List Char) : Emit Unit := do
  if !(← get).afterBlank then write [' ']
  inText
  writeWords indent canBreak 0 s

def writeBreaks (indent count : Nat) : Emit Unit := do
  for _ in List.range (count + 1) do newLine
  goTo indent

/-- Writes what stands in single quotes: `spaces` and `breaks` have been read and not yet written, and
`isFirst` holds before the first character that is no space. -/
def writeSingleChars (indent : Nat) (canBreak isFirst : Bool) (spaces breaks : Nat) :
    List Char → Emit Unit
  | [] => do
    if 0 < breaks then writeBreaks indent breaks
    write (List.replicate spaces ' ')
  | c :: rest => do
    if 0 < breaks && c != '\n' then writeBreaks indent breaks
    let breaks := if c == '\n' then breaks + 1 else 0
    if 0 < spaces && c != ' ' then writeSpaces indent (canBreak && !isFirst) spaces
    if c == ' ' then writeSingleChars indent canBreak isFirst (spaces + 1) breaks rest
    else if c == '\n' then writeSingleChars indent canBreak false 0 breaks rest
    else
      write (if c == '\'' then ['\'', '\''] else [c])
      writeSingleChars indent canBreak false 0 breaks rest

def writeSingle (indent : Nat) (canBreak : Bool) (s : List Char) : Emit Unit := do
  indicator "'" true false
  writeSingleChars indent canBreak true 0 0 s
  indicator "'" false false

def escapeLetters : List (Char × Char) :=
  [('\x00', '0'), ('\x07', 'a'), ('\x08', 'b'), ('\t', 't'), ('\n', 'n'), ('\x0b', 'v'), ('\x0c', 'f'),
    ('\r', 'r'), ('\x1b', 'e'), ('"', '"'), ('\\', '\\'), ('\u0085', 'N'), ('\u00a0', '_'),
    ('\u2028', 'L'), ('\u2029', 'P')]

def escape (c : Char) : List Char :=
  match escapeLetters.lookup c with
  | some letter => ['\\', letter]
  | none =>
    let digits := fun width => (Text.hex width c.toNat).map Char.toUpper
    if c.toNat ≤ 0xff then '\\' :: 'x' :: digits 2
    else if c.toNat ≤ 0xffff then '\\' :: 'u' :: digits 4
    else '\\' :: 'U' :: digits 8

def breakDouble (indent : Nat) (next : Option Char) : Emit Unit := do
  write ['\\']
  goTo indent
  inText
  if next == some ' ' then write ['\\']

/-- Writes what stands in double quotes: `pending` has been read and not yet written, last character first,
and `isFirst` holds for the first character. -/
def writeDoubleChars (indent : Nat) (canBreak isFirst : Bool) (pending : List Char) :
    List Char → Emit Unit
  | [] => write pending.reverse
  | c :: rest => do
    let mayBreak := canBreak && !isFirst && !rest.isEmpty
    if c == '"' || c == '\\' || c == '\n' || isSpecial c then
      write pending.reverse
      write (escape c)
      if mayBreak && lineWidth + 1 < (← get).column then breakDouble indent rest.head?
      writeDoubleChars indent canBreak false [] rest
    else if mayBreak && (c == ' ' || pending.isEmpty) &&
        lineWidth < (← get).column + pending.length then
      write pending.reverse
      breakDouble indent (some c)
      writeDoubleChars indent canBreak false [c] rest
    else writeDoubleChars indent canBreak false (c :: pending) rest

def writeDouble (indent : Nat) (canBreak : Bool) (s : List Char) : Emit Unit := do
  indicator "\"" true false
  writeDoubleChars indent canBreak true [] s
  indicator "\"" false false

def writeText (indent : Nat) (isKey : Bool) (text : String) : Emit Unit :=
  match styleOf isKey text with
  | .plain => writePlain indent (!isKey) text.toList
  | .single => writeSingle indent (!isKey) text.toList
  | .double => writeDouble indent (!isKey) text.toList

/-! ## Writing values -/

def floatText : Binary64 → List Char
  | .nan => ".nan".toList
  | .infinite negative => if negative then "-.inf".toList else ".inf".toList
  | x =>
    let s := x.render.toList
    if s.contains '.' then s
    else s.takeWhile (· != 'e') ++ '.' :: '0' :: s.dropWhile (· != 'e')

def deeper (indent : Option Nat) : Nat :=
  match indent with
  | none => 0
  | some n => n + 2

mutual

def writeValue (indent : Option Nat) (bare : Bool) : Json → Emit Unit
  | .null => writePlain (deeper indent) true "null".toList
  | .bool b => writePlain (deeper indent) true (if b then "true" else "false").toList
  | .int n => writePlain (deeper indent) true (Numeral.render n).toList
  | .float x => writePlain (deeper indent) true (floatText x)
  | .str s => writeText (indent.getD 0 + 2) false s
  | .arr [] => indicator "[]" true false
  | .obj [] => indicator "\x7b\x7d" true false
  | .arr items => writeItems (if bare then indent.getD 0 else deeper indent) items
  | .obj members => writeMembers (deeper indent) members

def writeItems (indent : Nat) : List Json → Emit Unit
  | [] => return
  | item :: items => do
    goTo indent
    indicator "-" true true
    writeValue (some indent) false item
    writeItems indent items

def writeMembers (indent : Nat) : List (String × Json) → Emit Unit
  | [] => return
  | (name, value) :: members => do
    goTo indent
    let isSimple := name.length ≤ maxSimpleKey && name != "" && !name.toList.contains '\n'
    if isSimple then
      writeText (indent + 2) true name
      indicator ":" false false
    else
      indicator "?" true true
      writeText (indent + 2) false name
      goTo indent
      indicator ":" true true
    writeValue (some indent) isSimple value
    writeMembers indent members

end

def write (value : Json) : String :=
  let (_, out) := (do writeValue none false value; goTo 0 : Emit Unit).run {}
  String.ofList out.text.reverse

end EnvAudit.Yaml
