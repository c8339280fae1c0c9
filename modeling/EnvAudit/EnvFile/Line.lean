import EnvAudit.Text.Blank

/-!
# Lines of an environment file

How one line is read. After trimming, a line is blank, a comment that starts with `#`, an assignment
of a value to a name, or malformed. A value in double quotes ends at the first quote that no backslash
escapes, a value in single quotes at the first quote after which nothing or a comment follows, and any
other value at the first `#`.
-/

namespace EnvAudit

open Text

def isNameStart (c : Char) : Bool := c.isAlpha || c == '_'

def isNameChar (c : Char) : Bool := c.isAlphanum || c == '_'

/-- Splits a text at every line feed; a carriage return right before one belongs to the separator. -/
def splitLines : List Char → List (List Char)
  | [] => [[]]
  | '\n' :: rest => [] :: splitLines rest
  | '\r' :: '\n' :: rest => [] :: splitLines rest
  | c :: rest =>
    match splitLines rest with
    | [] => [[c]]
    | first :: others => (c :: first) :: others

structure RawValue where
  value : List Char
  isQuoted : Bool
  comment : Option (List Char)
  deriving DecidableEq, Repr

namespace RawValue

def replaceEscape (letter result : Char) : List Char → List Char
  | '\\' :: c :: rest =>
    if c = letter then result :: replaceEscape letter result rest
    else '\\' :: replaceEscape letter result (c :: rest)
  | c :: rest => c :: replaceEscape letter result rest
  | [] => []

/-- Replaces the five escapes one after another, so that a later one sees the results of the earlier. -/
def unescape (s : List Char) : List Char :=
  let s := replaceEscape 'n' '\n' s
  let s := replaceEscape 'r' '\r' s
  let s := replaceEscape 't' '\t' s
  let s := replaceEscape '\\' '\\' s
  replaceEscape '"' '"' s

def nonempty? (s : List Char) : Option (List Char) := if s.isEmpty then none else some s

def isClosing (s : List Char) : Bool :=
  s.isEmpty || (trimStart s).head? == some '#'

def closingComment (s : List Char) : Option (List Char) := nonempty? (trim ((trim s).drop 1))

/-- Splits the text behind a double quote at the first double quote that no backslash escapes. -/
def closeDouble : List Char → Option (List Char × List Char)
  | [] => none
  | '"' :: rest => some ([], rest)
  | ['\\'] => none
  | '\\' :: c :: rest => (closeDouble rest).map fun (body, tail) => ('\\' :: c :: body, tail)
  | c :: rest => (closeDouble rest).map fun (body, tail) => (c :: body, tail)

/-- Splits the text behind a single quote at the first single quote that may close it. -/
def closeSingle : List Char → Option (List Char × List Char)
  | [] => none
  | c :: rest =>
    if c = '\'' && isClosing rest then some ([], rest)
    else (closeSingle rest).map fun (body, tail) => (c :: body, tail)

def isWrapped (quote : Char) (s : List Char) : Bool :=
  2 ≤ s.length && s.head? == some quote && s.getLast? == some quote

def inner (s : List Char) : List Char := (s.drop 1).dropLast

/-- A value that no quote delimits from what follows; it may still stand between quotes. -/
def plain (s : List Char) (comment : Option (List Char)) : RawValue :=
  if isWrapped '\'' s then ⟨inner s, true, comment⟩
  else if isWrapped '"' s then ⟨unescape (inner s), true, comment⟩
  else ⟨s, false, comment⟩

def readPlain (s : List Char) : RawValue :=
  let before := s.takeWhile (· != '#')
  let after := s.dropWhile (· != '#')
  plain (trim before) (nonempty? (trim (after.drop 1)))

def readDouble? : List Char → Option RawValue
  | '"' :: rest =>
    match closeDouble rest with
    | some (body, tail) =>
      if isClosing tail then some ⟨unescape body, true, closingComment tail⟩ else none
    | none => none
  | _ => none

def readSingle? : List Char → Option RawValue
  | '\'' :: rest => (closeSingle rest).map fun (body, tail) => ⟨body, true, closingComment tail⟩
  | _ => none

def read (s : List Char) : RawValue :=
  match readDouble? s with
  | some value => value
  | none =>
    match readSingle? s with
    | some value => value
    | none => readPlain s

end RawValue

def splitAssignment? (s : List Char) : Option (List Char × List Char) :=
  match s with
  | [] => none
  | c :: _ =>
    if isNameStart c then
      match trimStart (s.dropWhile isNameChar) with
      | '=' :: rest =>
        let value := trimStart rest
        if value.contains '\n' then none else some (s.takeWhile isNameChar, value)
      | _ => none
    else none

inductive Line where
  | blank
  | comment (text : List Char)
  | assignment (key : List Char) (value : RawValue)
  | malformed (text : List Char)
  deriving DecidableEq, Repr

namespace Line

def readAssignment (s : List Char) : Line :=
  match splitAssignment? s with
  | some (key, value) => .assignment key (RawValue.read value)
  | none => .malformed s

def read (raw : List Char) : Line :=
  match trim raw with
  | [] => .blank
  | '#' :: rest => .comment (trim rest)
  | s => readAssignment s

end Line

end EnvAudit
