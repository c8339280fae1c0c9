import EnvAudit.Text.Utf8
import EnvAudit.Yaml.Scalar

/-!
# YAML tokens

A text as a list of tokens. Indentation shows as tokens that open and close blocks. A key is known as such
only at its colon, so the places where one may have started are remembered, one for each depth of brackets;
a key has to end on its line and within 1024 characters.
-/

namespace EnvAudit.Yaml

inductive Directive where
  | version (major : Nat)
  | tag (handle stem : String)
  | other
  deriving DecidableEq, Repr

inductive Token where
  | directive (value : Directive)
  | documentStart
  | documentEnd
  | blockSequence
  | blockMapping
  | blockEnd
  | flowSequence
  | flowSequenceEnd
  | flowMapping
  | flowMappingEnd
  | flowEntry
  | blockEntry
  | key
  | value
  | aliasOf (name : String)
  | anchor (name : String)
  | tag (handle : Option String) (suffix : String)
  | scalar (text : String) (isPlain : Bool)
  | done
  | stop (fault : Fault)
  deriving DecidableEq, Repr, Inhabited

/-! ## Words -/

def nameWord : Scan String := do
  let name ← takeWhile isNameChar
  if name.isEmpty then malformed
  return String.ofList name

def anchorName : Scan String := do
  forward
  let name ← nameWord
  let next ← peek
  if isWordEnd next || next.any fun c => "?:,]\x7d%@".toList.contains c || c == '\u0060' then return name
  else malformed

def percentBytes : Nat → Scan (List UInt8)
  | 0 => malformed
  | fuel + 1 => do
    if (← peek) != some '%' then return []
    match (← peek 1).bind Numeral.hexValue?, (← peek 2).bind Numeral.hexValue? with
    | some high, some low =>
      forward 3
      return UInt8.ofNat (high * 16 + low) :: (← percentBytes fuel)
    | _, _ => malformed

def tagChars : Nat → Scan (List Char)
  | 0 => malformed
  | fuel + 1 => do
    let plain ← takeWhile fun c => isTagChar c && c != '%'
    if (← peek) == some '%' then
      match Text.Utf8.decode (← percentBytes (← fuelLeft)) with
      | .ok chars => return plain ++ chars ++ (← tagChars fuel)
      | .error _ => malformed
    else return plain

def tagWord : Scan String := do
  let before := (← get).index
  let chars ← tagChars (← fuelLeft)
  if (← get).index == before then malformed
  return String.ofList chars

def tagHandle : Scan String := do
  if (← peek) != some '!' then malformed
  forward
  if (← peek) == some ' ' then return "!"
  let name ← takeWhile isNameChar
  if (← peek) != some '!' then malformed
  forward
  return String.ofList ('!' :: name ++ ['!'])

def hasHandle (s : List Char) : Bool := (s.takeWhile fun c => !isSpaceEnd (some c)).contains '!'

def tagToken : Scan Token := do
  let next ← peek 1
  let token ←
    if next == some '<' then
      forward 2
      let suffix ← tagWord
      if (← peek) != some '>' then malformed
      forward
      pure (Token.tag none suffix)
    else if isWordEnd next then
      forward
      pure (Token.tag none "!")
    else if hasHandle ((← get).rest.drop 1) then
      let handle ← tagHandle
      pure (Token.tag (some handle) (← tagWord))
    else
      forward
      pure (Token.tag (some "!") (← tagWord))
  if !isSpaceEnd (← peek) then malformed
  return token

/-! ## Directives -/

def versionNumber : Scan Nat := do
  let digits ← takeWhile Char.isDigit
  if digits.isEmpty then malformed
  return Numeral.ofDigits digits

def directive : Scan Directive := do
  forward
  let name ← nameWord
  if !isSpaceEnd (← peek) then malformed
  let value ←
    if name == "YAML" then
      skipSpaces
      let major ← versionNumber
      if (← peek) != some '.' then malformed
      forward
      let _ ← versionNumber
      if !isSpaceEnd (← peek) then malformed
      pure (Directive.version major)
    else if name == "TAG" then
      skipSpaces
      let handle ← tagHandle
      if (← peek) != some ' ' then malformed
      skipSpaces
      let stem ← tagWord
      if !isSpaceEnd (← peek) then malformed
      pure (Directive.tag handle stem)
    else
      let _ ← takeWhile (!isBreak ·)
      pure Directive.other
  restOfLine
  return value

/-! ## The tokens of a text -/

/-- A place where a key may have started: before which token it stands, and whether it has to be one. -/
structure KeyPlace where
  token : Nat
  isRequired : Bool
  index : Nat
  line : Nat
  column : Nat
  deriving Repr

/-- What has been read of a text, the depth of brackets, the indentations of the open blocks, innermost
first, whether a key may start here, and where keys may have started at each depth. -/
structure Tokens where
  cursor : Cursor
  tokens : Array Token := #[]
  depth : Nat := 0
  indent : Int := -1
  indents : List Int := []
  allowsKey : Bool := true
  keys : List (Nat × KeyPlace) := []

abbrev Tokenize := StateT Tokens (Except Fault)

namespace Tokenize

def scan {α : Type} (reader : Scan α) : Tokenize α := do
  let s ← get
  match reader.run s.cursor with
  | .ok (value, cursor) => set { s with cursor }; return value
  | .error fault => throw fault

def push (token : Token) : Tokenize Unit := modify fun s => { s with tokens := s.tokens.push token }

/-- Closes the blocks that are indented deeper than a column; brackets keep blocks open. -/
def closeBlocks (column : Int) : Nat → Tokenize Unit
  | 0 => return
  | fuel + 1 => do
    let s ← get
    if s.depth == 0 && column < s.indent then
      match s.indents with
      | [] => return
      | outer :: indents =>
        set { s with indent := outer, indents, tokens := s.tokens.push .blockEnd }
        closeBlocks column fuel

def unwind (column : Int) : Tokenize Unit := do closeBlocks column ((← get).indents.length + 1)

def openBlock (column : Int) : Tokenize Bool := do
  let s ← get
  if s.indent < column then
    set { s with indent := column, indents := s.indent :: s.indents }
    return true
  return false

def dropKey : Tokenize Unit := do
  let s ← get
  match s.keys.lookup s.depth with
  | none => return
  | some place =>
    if place.isRequired then throw .malformed
    set { s with keys := s.keys.filter (·.1 != s.depth) }

def dropStaleKeys : Tokenize Unit := do
  let s ← get
  let isStale := fun (place : KeyPlace) =>
    place.line != s.cursor.line || place.index + 1024 < s.cursor.index
  if s.keys.any fun (_, place) => isStale place && place.isRequired then throw .malformed
  set { s with keys := s.keys.filter fun (_, place) => !isStale place }

def saveKey : Tokenize Unit := do
  let s ← get
  if s.allowsKey then
    dropKey
    let place : KeyPlace :=
      { token := s.tokens.size
        isRequired := s.depth == 0 && s.indent == Int.ofNat s.cursor.column
        index := s.cursor.index
        line := s.cursor.line
        column := s.cursor.column }
    modify fun s => { s with keys := (s.depth, place) :: s.keys }

def allowKey (allowed : Bool) : Tokenize Unit := modify fun s => { s with allowsKey := allowed }

def skipToToken : Nat → Tokenize Unit
  | 0 => throw .malformed
  | fuel + 1 => do
    scan skipSpaces
    scan skipComment
    match ← scan lineBreak with
    | [] => return
    | _ =>
      if (← get).depth == 0 then allowKey true
      skipToToken fuel

def endBlocks (reader : Scan Token) : Tokenize Unit := do
  unwind (-1)
  dropKey
  allowKey false
  push (← scan reader)

def openFlow (token : Token) : Tokenize Unit := do
  saveKey
  modify fun s => { s with depth := s.depth + 1 }
  allowKey true
  scan forward
  push token

def closeFlow (token : Token) : Tokenize Unit := do
  dropKey
  modify fun s => { s with depth := s.depth - 1 }
  allowKey false
  scan forward
  push token

def indicator (token : Token) : Tokenize Unit := do
  dropKey
  scan forward
  push token

def openBlockFor (opening : Token) : Tokenize Unit := do
  let s ← get
  if s.depth == 0 then
    if !s.allowsKey then throw .malformed
    if ← openBlock s.cursor.column then push opening

def valueOfKey (place : KeyPlace) : Tokenize Unit := do
  let insert := fun token => modify fun (s : Tokens) =>
    { s with tokens := s.tokens.insertIdxIfInBounds place.token token }
  modify fun s => { s with keys := s.keys.filter (·.1 != s.depth) }
  insert .key
  if (← get).depth == 0 then
    if ← openBlock place.column then insert .blockMapping
  allowKey false
  scan forward
  push .value

def valueToken : Tokenize Unit := do
  let s ← get
  match s.keys.lookup s.depth with
  | some place => valueOfKey place
  | none =>
    openBlockFor .blockMapping
    allowKey (s.depth == 0)
    indicator .value

def content (reader : Scan Token) : Tokenize Unit := do
  saveKey
  allowKey false
  push (← scan reader)

def plain : Tokenize Unit := do
  saveKey
  let s ← get
  let (text, ended) ← scan (plainScalar (s.depth != 0) (s.indent + 1).toNat)
  allowKey ended
  push (.scalar text true)

def block (folded : Bool) : Tokenize Unit := do
  allowKey true
  dropKey
  let text ← scan (blockScalar folded (← get).indent)
  push (.scalar text false)

def startsPlain (inFlow : Bool) (c : Char) (next : Option Char) : Bool :=
  !(isWordEnd (some c) || "-?:,[]\x7b\x7d#&*!|>'\"%@".toList.contains c || c == '\u0060') ||
    (!isWordEnd next && (c == '-' || (!inFlow && (c == '?' || c == ':'))))

def tokenAt (c : Char) : Tokenize Unit := do
  let s ← get
  let inFlow := s.depth != 0
  let next := s.cursor.peek 1
  let atStart := s.cursor.column == 0
  if atStart && c == '%' then endBlocks (return .directive (← directive))
  else if atStart && c == '-' && s.cursor.atMarker then
    endBlocks do forward 3; return .documentStart
  else if atStart && c == '.' && s.cursor.atMarker then
    endBlocks do forward 3; return .documentEnd
  else if c == '[' then openFlow .flowSequence
  else if c == '\x7b' then openFlow .flowMapping
  else if c == ']' then closeFlow .flowSequenceEnd
  else if c == '\x7d' then closeFlow .flowMappingEnd
  else if c == ',' then do allowKey true; indicator .flowEntry
  else if c == '-' && isWordEnd next then do
    openBlockFor .blockSequence
    allowKey true
    indicator .blockEntry
  else if c == '?' && (inFlow || isWordEnd next) then do
    openBlockFor .blockMapping
    allowKey (!inFlow)
    indicator .key
  else if c == ':' && (inFlow || isWordEnd next) then valueToken
  else if c == '*' then content (return .aliasOf (← anchorName))
  else if c == '&' then content (return .anchor (← anchorName))
  else if c == '!' then content tagToken
  else if c == '|' && !inFlow then block false
  else if c == '>' && !inFlow then block true
  else if c == '\'' then content (return .scalar (← quotedScalar false) false)
  else if c == '"' then content (return .scalar (← quotedScalar true) false)
  else if startsPlain inFlow c next then plain
  else throw .malformed

def next : Tokenize Bool := do
  skipToToken ((← get).cursor.rest.length + 1)
  dropStaleKeys
  unwind (← get).cursor.column
  match (← get).cursor.peek with
  | some c => tokenAt c; return true
  | none =>
    unwind (-1)
    dropKey
    push .done
    return false

def collect (s : Tokens) : Nat → Array Token
  | 0 => s.tokens.push (.stop .malformed)
  | fuel + 1 =>
    match StateT.run next s with
    | .ok (true, s) => collect s fuel
    | .ok (false, s) => s.tokens
    | .error fault => s.tokens.push (.stop fault)

end Tokenize

def tokens (text : List Char) : List Token :=
  let start : Cursor := { rest := text }
  let cursor := if text.head? == some '\ufeff' then start.step else start
  (Tokenize.collect { cursor } (text.length + 2)).toList

end EnvAudit.Yaml
