import EnvAudit.Numeral
import EnvAudit.Yaml.Cursor

namespace EnvAudit.Yaml

/-! ## Quoted scalars -/

def escapes : List (Char × Char) :=
  [('0', '\x00'), ('a', '\x07'), ('b', '\x08'), ('t', '\t'), ('\t', '\t'), ('n', '\n'), ('v', '\x0b'),
    ('f', '\x0c'), ('r', '\r'), ('e', '\x1b'), (' ', ' '), ('"', '"'), ('\\', '\\'), ('/', '/'),
    ('N', '\u0085'), ('_', '\u00a0'), ('L', '\u2028'), ('P', '\u2029')]

def escapeWidth? (c : Char) : Option Nat :=
  if c == 'x' then some 2 else if c == 'u' then some 4 else if c == 'U' then some 8 else none

def codePoint (width : Nat) : Scan Char := do
  let digits := (← get).rest.take width
  let values := digits.filterMap Numeral.hexValue?
  if values.length != width then malformed
  let code := values.foldl (fun n d => n * 16 + d) 0
  if 0x7fffffff < code then throw (.tooLarge "Python int too large to convert to C int")
  if 0x10ffff < code then throw (.badValue "chr() arg not in range(0x110000)")
  forward width
  return Char.ofNat code

def quotedBreaks : Nat → Scan (List Char)
  | 0 => malformed
  | fuel + 1 => do
    if (← get).atMarker then malformed
    let _ ← takeWhile fun c => c == ' ' || c == '\t'
    match ← lineBreak with
    | [] => return []
    | broken => return broken ++ (← quotedBreaks fuel)

def fold (first others : List Char) : List Char :=
  if first != ['\n'] then first ++ others else if others.isEmpty then [' '] else others

def quotedSpaces : Scan (List Char) := do
  let blanks ← takeWhile fun c => c == ' ' || c == '\t'
  if (← peek).isNone then malformed
  match ← lineBreak with
  | [] => return blanks
  | broken => return fold broken (← quotedBreaks (← fuelLeft))

def quotedWord (isDouble : Bool) : Nat → Scan (List Char)
  | 0 => malformed
  | fuel + 1 => do
    let word ← takeWhile fun c =>
      c != '\'' && c != '"' && c != '\\' && c != ' ' && c != '\t' && !isBreak c
    match ← peek with
    | none => return word
    | some c =>
      if !isDouble && c == '\'' && (← peek 1) == some '\'' then
        forward 2
        return word ++ '\'' :: (← quotedWord isDouble fuel)
      else if (isDouble && c == '\'') || (!isDouble && (c == '"' || c == '\\')) then
        forward
        return word ++ c :: (← quotedWord isDouble fuel)
      else if isDouble && c == '\\' then
        forward
        let part ← escaped
        return word ++ part ++ (← quotedWord isDouble fuel)
      else return word
where
  /-- Reads what stands behind a backslash. -/
  escaped : Scan (List Char) := do
    match ← peek with
    | none => malformed
    | some c =>
      match escapes.lookup c with
      | some plain => forward; return [plain]
      | none =>
        match escapeWidth? c with
        | some width => forward; return [← codePoint width]
        | none =>
          if isBreak c then
            let _ ← lineBreak
            quotedBreaks (← fuelLeft)
          else malformed

def quotedRest (isDouble : Bool) (quote : Char) : Nat → Scan (List Char)
  | 0 => malformed
  | fuel + 1 => do
    if (← peek) == some quote then
      forward
      return []
    let spaces ← quotedSpaces
    let word ← quotedWord isDouble (← fuelLeft)
    return spaces ++ word ++ (← quotedRest isDouble quote fuel)

def quotedScalar (isDouble : Bool) : Scan String := do
  forward
  let word ← quotedWord isDouble (← fuelLeft)
  let rest ← quotedRest isDouble (if isDouble then '"' else '\'') (← fuelLeft)
  return String.ofList (word ++ rest)

/-! ## Plain scalars -/

def endsPlain (inFlow : Bool) (c : Char) (next : Option Char) : Bool :=
  isWordEnd (some c) ||
    (c == ':' && (isWordEnd next || (inFlow && next.any fun n => ",[]\x7b\x7d".toList.contains n))) ||
    (inFlow && ",?[]\x7b\x7d".toList.contains c)

def plainLength (inFlow : Bool) : List Char → Nat
  | [] => 0
  | c :: rest => if endsPlain inFlow c rest.head? then 0 else plainLength inFlow rest + 1

def plainBreaks : Nat → Scan (Option (List Char))
  | 0 => malformed
  | fuel + 1 => do
    skipSpaces
    match ← lineBreak with
    | [] => return some []
    | broken =>
      if (← get).atMarker then return none
      return (← plainBreaks fuel).map (broken ++ ·)

/-- Reads what stands between two words of a plain scalar; the second component says whether a line ended.
Nothing means that the scalar ends. -/
def plainSpaces : Scan (List Char × Bool) := do
  let blanks ← takeWhile (· == ' ')
  match ← lineBreak with
  | [] => return (blanks, false)
  | broken =>
    if (← get).atMarker then return ([], true)
    match ← plainBreaks (← fuelLeft) with
    | none => return ([], true)
    | some others => return (fold broken others, true)

/-- Reads the words of a plain scalar, which stands deeper than `indent`. The second component says whether
the scalar ends behind a line break. -/
def plainWords (inFlow : Bool) (indent : Nat) (spaces : List Char) (ended : Bool) :
    Nat → Scan (List Char × Bool)
  | 0 => malformed
  | fuel + 1 => do
    let cursor ← get
    let length := if cursor.peek == some '#' then 0 else plainLength inFlow cursor.rest
    if length == 0 then return ([], ended)
    let word := spaces ++ cursor.rest.take length
    forward length
    let (spaces, ended) ← plainSpaces
    let cursor ← get
    if spaces.isEmpty || cursor.peek == some '#' || (!inFlow && cursor.column < indent) then
      return (word, ended)
    let (words, ended) ← plainWords inFlow indent spaces ended fuel
    return (word ++ words, ended)

def plainScalar (inFlow : Bool) (indent : Nat) : Scan (String × Bool) := do
  let (words, ended) ← plainWords inFlow indent [] false (← fuelLeft)
  return (String.ofList words, ended)

/-! ## Block scalars -/

inductive Chomping where
  | clip
  | strip
  | keep
  deriving DecidableEq, Repr

def chomping? : Scan (Option Chomping) := do
  match ← peek with
  | some '+' => forward; return some .keep
  | some '-' => forward; return some .strip
  | _ => return none

def increment? : Scan (Option Nat) := do
  match ← peek with
  | some c =>
    if c == '0' then malformed
    else if c.isDigit then forward; return some (c.toNat - '0'.toNat)
    else return none
  | none => return none

def blockIndicators : Scan (Chomping × Option Nat) := do
  let first ← chomping?
  let increment ← increment?
  let second ← if first.isNone && increment.isSome then chomping? else pure first
  if !isSpaceEnd (← peek) then malformed
  return (second.getD .clip, increment)

def blockIndentation : Nat → Scan (List Char × Nat)
  | 0 => malformed
  | fuel + 1 => do
    skipSpaces
    let column := (← get).column
    match ← lineBreak with
    | [] => return ([], column)
    | broken =>
      let (others, deepest) ← blockIndentation fuel
      return (broken ++ others, max column deepest)

def indentTo (indent : Nat) : Scan Unit := do
  let cursor ← get
  let spaces := (cursor.rest.takeWhile (· == ' ')).length
  forward (min spaces (indent - cursor.column))

def blockBreaks (indent : Nat) : Nat → Scan (List Char)
  | 0 => malformed
  | fuel + 1 => do
    indentTo indent
    match ← lineBreak with
    | [] => return []
    | broken => return broken ++ (← blockBreaks indent fuel)

def blockLines (folded : Bool) (indent : Nat) (breaks : List Char) :
    Nat → Scan (List Char × List Char × List Char)
  | 0 => malformed
  | fuel + 1 => do
    let cursor ← get
    if cursor.column != indent || cursor.peek.isNone then return ([], [], breaks)
    let startsBlank := cursor.peek == some ' ' || cursor.peek == some '\t'
    let line ← takeWhile (!isBreak ·)
    let broken ← lineBreak
    let next ← blockBreaks indent (← fuelLeft)
    let cursor ← get
    if cursor.column == indent && cursor.peek.isSome then
      let goesOnBlank := cursor.peek == some ' ' || cursor.peek == some '\t'
      let joint :=
        if folded && broken == ['\n'] && !startsBlank && !goesOnBlank then
          if next.isEmpty then [' '] else []
        else broken
      let (lines, last, tail) ← blockLines folded indent next fuel
      return (breaks ++ line ++ joint ++ lines, last, tail)
    return (breaks ++ line, broken, next)

def blockScalar (folded : Bool) (parent : Int) : Scan String := do
  forward
  let (chomping, increment) ← blockIndicators
  restOfLine
  let least := (max (parent + 1) 1).toNat
  let (breaks, indent) ←
    match increment with
    | some n =>
      let indent := least + n - 1
      pure (← blockBreaks indent (← fuelLeft), indent)
    | none =>
      let (breaks, deepest) ← blockIndentation (← fuelLeft)
      pure (breaks, max least deepest)
  let (lines, last, tail) ← blockLines folded indent breaks (← fuelLeft)
  return String.ofList <| lines ++
    match chomping with
    | .clip => last
    | .strip => []
    | .keep => last ++ tail

end EnvAudit.Yaml
