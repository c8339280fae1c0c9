import EnvAudit.Text.Blank
import EnvAudit.Text.Columns

/-!
# Markup

Texts with styles. In a marked-up text a word in square brackets opens a style, and with a slash in front of
it closes one; a backslash in front of the bracket makes it plain text. `escape` makes a text plain,
`render` turns marked-up text into pieces with styles. What names a style has, and what may be given to a
handler of events, is up to a `Dialect`. A line is printed as long as it is, with the blanks at its end, and the
names of emojis in it stay names.
-/

namespace EnvAudit.Markup

class Dialect where
  /-- The usual form of the name of a style. -/
  styleName : String → String
  /-- What is said of the parameters of a handler, unless they can be read. -/
  parameterFault? : String → Option String

/-! ## Styles -/

structure Style where
  bold : Bool := false
  dim : Bool := false
  colour : Option Nat := none
  deriving DecidableEq, Repr, Inhabited

namespace Style

def colours : List (String × Nat) :=
  [("black", 30), ("red", 31), ("green", 32), ("yellow", 33), ("blue", 34), ("magenta", 35), ("cyan", 36),
    ("white", 37)]

def addWord (style : Style) (word : String) : Style :=
  if word == "bold" then { style with bold := true }
  else if word == "dim" then { style with dim := true }
  else
    match colours.lookup word with
    | some colour => { style with colour := some colour }
    | none => style

def addTag (style : Style) (tag : String) : Style := (tag.splitOn " ").foldl addWord style

def codes (style : Style) : String :=
  ";".intercalate <|
    (if style.bold then ["1"] else []) ++ (if style.dim then ["2"] else []) ++
      match style.colour with
      | some colour => [toString colour]
      | none => []

end Style

/-! ## Tags -/

def startsTag (c : Char) : Bool := ('a' ≤ c && c ≤ 'z') || c == '#' || c == '/' || c == '@'

/-- The inside of a tag, up to the first closing bracket, and what follows it; an opening bracket must not
come before that. -/
def tagBody? : List Char → Option (List Char × List Char)
  | [] => none
  | ']' :: rest => some ([], rest)
  | '[' :: _ => none
  | c :: rest => (tagBody? rest).map fun (body, rest) => (c :: body, rest)

def tag? : List Char → Option (List Char × List Char)
  | '[' :: c :: rest =>
    if startsTag c then (tagBody? rest).map fun (body, rest) => (c :: body, rest) else none
  | _ => none

def bracketed (tag : List Char) : List Char := '[' :: tag ++ [']']

/-! ## Escaping -/

/-- Doubles the backslashes in front of every tag and adds one more; `slashes` of them have been read. -/
def escapeTags (slashes : Nat) : Nat → List Char → List Char
  | 0, s => List.replicate slashes '\\' ++ s
  | fuel + 1, s =>
    match tag? s with
    | some (tag, rest) =>
      List.replicate (2 * slashes + 1) '\\' ++ bracketed tag ++ escapeTags 0 fuel rest
    | none =>
      match s with
      | [] => List.replicate slashes '\\'
      | '\\' :: rest => escapeTags (slashes + 1) fuel rest
      | c :: rest => List.replicate slashes '\\' ++ c :: escapeTags 0 fuel rest

def guardEnd (s : List Char) : List Char :=
  match s.reverse with
  | ['\\'] => s ++ ['\\']
  | '\\' :: c :: _ => if c == '\\' then s else s ++ ['\\']
  | _ => s

def escape (s : String) : String :=
  String.ofList (guardEnd (escapeTags 0 (s.length + 1) s.toList))

/-! ## Reading marked-up text -/

inductive Part where
  | text (s : List Char)
  | tag (position : Nat) (name : List Char)
  deriving DecidableEq, Repr

def addChar (c : Char) : List Part → List Part
  | .text s :: parts => .text (c :: s) :: parts
  | parts => .text [c] :: parts

def addChars (s : List Char) (parts : List Part) : List Part := s.foldr addChar parts

/-- Splits a text into its parts; `slashes` backslashes have been read before the current position. A
backslash in front of an opening bracket that is no tag is dropped. -/
def splitParts (slashes position : Nat) : Nat → List Char → List Part
  | 0, s => addChars (List.replicate slashes '\\' ++ s) []
  | fuel + 1, s =>
    match tag? s with
    | some (tag, rest) =>
      let behind := position + tag.length + 2
      let parts := splitParts 0 behind fuel rest
      let tail :=
        if slashes % 2 == 1 then addChars (bracketed tag) parts else .tag position tag :: parts
      addChars (List.replicate (slashes / 2) '\\') tail
    | none =>
      match s with
      | [] => addChars (List.replicate slashes '\\') []
      | '\\' :: rest => splitParts (slashes + 1) (position + 1) fuel rest
      | '[' :: rest =>
        addChars (List.replicate (slashes - 1) '\\' ++ ['['])
          (splitParts 0 (position + 1) fuel rest)
      | c :: rest =>
        addChars (List.replicate slashes '\\' ++ [c]) (splitParts 0 (position + 1) fuel rest)

def parts (s : String) : List Part := splitParts 0 0 (s.length + 1) s.toList

/-! ## Rendering -/

inductive Fault where
  | notOpen (tag : String) (position : Nat)
  | nothingOpen (position : Nat)
  | badParameters (message : String)
  deriving DecidableEq, Repr

def Fault.message : Fault → String
  | notOpen tag position =>
    "closing tag '[" ++ tag ++ "]' at position " ++ toString position ++ " doesn't match any open tag"
  | nothingOpen position =>
    "closing tag '[/]' at position " ++ toString position ++ " has nothing to close"
  | badParameters message => message

structure Piece where
  style : Style
  text : List Char
  deriving DecidableEq, Repr

/-- A tag that is open. A fault in its parameters shows when it is closed. -/
structure Opened where
  name : String
  fault? : Option String
  deriving DecidableEq, Repr

def styleOf (opened : List Opened) : Style := opened.reverse.foldl (fun style tag => style.addTag tag.name) {}

def nameOf (tag : List Char) : List Char := tag.takeWhile (· != '=')

def close? (name : String) : List Opened → Option (Opened × List Opened)
  | [] => none
  | tag :: tags =>
    if tag.name == name then some (tag, tags)
    else (close? name tags).map fun (closed, others) => (closed, tag :: others)

def isDropped (c : Char) : Bool :=
  c == '\x07' || c == '\x08' || c == '\x0b' || c == '\x0c' || c == '\x0d'

section
variable [Dialect]

def Opened.ofTag (tag : List Char) : Opened :=
  let parameters := tag.drop ((nameOf tag).length + 1)
  { name := Dialect.styleName (String.ofList (nameOf tag))
    fault? :=
      if tag.head? == some '@' && !parameters.isEmpty then Dialect.parameterFault? (String.ofList parameters)
      else none }

/-- Takes out the tag that a closing one is for: the last one that was opened, if it has no name. -/
def takeClosed (opened : List Opened) (position : Nat) (tag : List Char) : Except Fault (Opened × List Opened) :=
  let name := Text.trim (nameOf tag)
  if name.isEmpty then
    match opened with
    | [] => .error (.nothingOpen position)
    | innermost :: others => .ok (innermost, others)
  else
    match close? (Dialect.styleName (String.ofList name)) opened with
    | some found => .ok found
    | none => .error (.notOpen (String.ofList ('/' :: tag)) position)

def piecesOf (opened : List Opened) : List Part → Except Fault (List Piece)
  | [] => .ok []
  | .text s :: rest =>
    (piecesOf opened rest).map ({ style := styleOf opened, text := s.filter (!isDropped ·) } :: ·)
  | .tag position ('/' :: tag) :: rest =>
    match takeClosed opened position tag with
    | .error fault => .error fault
    | .ok (closed, others) =>
      match closed.fault? with
      | some message => .error (.badParameters message)
      | none => piecesOf others rest
  | .tag _ tag :: rest => piecesOf (.ofTag tag :: opened) rest

def render (s : String) : Except Fault (List Piece) := piecesOf [] (parts s)

end

/-! ## Tabulators -/

def tabWidth : Nat := 8

/-- Replaces tabulators by spaces up to the next stop; a piece ends behind each of them. `column` is where the
piece starts. The second component is where it ends. -/
def expandTabs (style : Style) (column : Nat) (pending : List Char) : List Char → List Piece × Nat
  | [] => ([⟨style, pending.reverse⟩], column)
  | '\n' :: rest =>
    let (pieces, column) := expandTabs style 0 [] rest
    (⟨style, pending.reverse⟩ :: ⟨{}, ['\n']⟩ :: pieces, column)
  | '\t' :: rest =>
    let width := tabWidth - column % tabWidth
    let (pieces, column) := expandTabs style (column + width) [] rest
    (⟨style, pending.reverse ++ List.replicate width ' '⟩ :: pieces, column)
  | c :: rest => expandTabs style (column + Text.columns c) (c :: pending) rest

def layOut (column : Nat) : List Piece → List Piece
  | [] => []
  | piece :: rest =>
    let (pieces, column) := expandTabs piece.style column [] piece.text
    pieces ++ layOut column rest

def Piece.coloured (piece : Piece) : List Char :=
  if piece.text.isEmpty || piece.style.codes == "" then piece.text
  else '\x1b' :: '[' :: piece.style.codes.toList ++ 'm' :: piece.text ++ "\x1b[0m".toList

def print (colour : Bool) (pieces : List Piece) : String :=
  String.ofList ((layOut 0 pieces).flatMap fun piece =>
    if colour then piece.coloured else piece.text)

end EnvAudit.Markup
