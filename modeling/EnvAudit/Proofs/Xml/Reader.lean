import EnvAudit.Numeral
import EnvAudit.Workspace
import Mathlib.Data.List.Infix

/-!
# Reading XML

A reader for XML 1.0, one character at a time, for documents without comments, processing instructions, character
sections and a document type. It accepts well-formed documents only: all characters are legal, tags match, the
attributes of an element have different names, references are to the predefined entities or to legal characters, and
there is one root. Line ends are unified before anything else is looked at.
-/

namespace EnvAudit.Xml

/-! ## Characters and names -/

def inRanges (ranges : List (Nat × Nat)) (c : Char) : Bool :=
  ranges.any fun (first, last) => first ≤ c.toNat && c.toNat ≤ last

/-- The characters that a document may hold, in whatever way they are written. -/
def isLegal : Char → Bool :=
  inRanges [(0x9, 0xa), (0xd, 0xd), (0x20, 0xd7ff), (0xe000, 0xfffd), (0x10000, 0x10ffff)]

def isSpace (c : Char) : Bool := c == ' ' || c == '\t' || c == '\n' || c == '\r'

def isNameStart : Char → Bool :=
  inRanges [(0x3a, 0x3a), (0x41, 0x5a), (0x5f, 0x5f), (0x61, 0x7a), (0xc0, 0xd6), (0xd8, 0xf6), (0xf8, 0x2ff),
    (0x370, 0x37d), (0x37f, 0x1fff), (0x200c, 0x200d), (0x2070, 0x218f), (0x2c00, 0x2fef), (0x3001, 0xd7ff),
    (0xf900, 0xfdcf), (0xfdf0, 0xfffd), (0x10000, 0xeffff)]

def isNameChar (c : Char) : Bool :=
  isNameStart c ||
    inRanges [(0x2d, 0x2e), (0x30, 0x39), (0xb7, 0xb7), (0x300, 0x36f), (0x203f, 0x2040)] c

/-! ## References -/

def predefined : List (String × Char) := [("amp", '&'), ("lt", '<'), ("gt", '>'), ("quot", '"'), ("apos", '\'')]

def digitsValue? (base : Nat) (digits : List Char) : Option Nat :=
  digits.foldlM (fun n c => ((Numeral.hexValue? c).filter (· < base)).map (n * base + ·)) 0

def charOf? (base : Nat) (digits : List Char) : Option Char :=
  if digits.isEmpty then none else ((digitsValue? base digits).map Char.ofNat).filter isLegal

def reference? : List Char → Option Char
  | '#' :: 'x' :: digits => charOf? 16 digits
  | '#' :: digits => charOf? 10 digits
  | name => predefined.lookup (String.ofList name)

/-- Replaces references, and other characters by `plain`. `opened` is what was read of a reference. -/
def expand? (plain : Char → Char) (opened : Option (List Char)) : List Char → Option (List Char)
  | [] => if opened.isSome then none else some []
  | c :: rest =>
    match opened with
    | none => if c == '&' then expand? plain (some []) rest else (expand? plain none rest).map (plain c :: ·)
    | some name =>
      if c == ';' then (reference? name).bind fun d => (expand? plain none rest).map (d :: ·)
      else expand? plain (some (name ++ [c])) rest

def text? (raw : List Char) : Option (List Char) :=
  if [']', ']', '>'] <:+: raw then none else expand? id none raw

def value? (raw : List Char) : Option (List Char) :=
  if '<' ∈ raw then none else expand? (fun c => if isSpace c then ' ' else c) none raw

/-! ## Documents -/

inductive Node where
  | text (s : String)
  | element (name : String) (attributes : List (String × String)) (content : List Node)
  deriving Repr, Inhabited

def textNodes (s : List Char) : List Node := if s.isEmpty then [] else [.text (String.ofList s)]

structure Frame where
  name : String
  attributes : List (String × String) := []
  content : List Node := []

namespace Frame

def node (f : Frame) : Node := .element f.name f.attributes f.content

def push (f : Frame) (nodes : List Node) : Frame := { f with content := f.content ++ nodes }

def addAttribute? (f : Frame) (name raw : List Char) : Option Frame :=
  if f.attributes.any (·.1 == String.ofList name) then none
  else (value? raw).map fun value =>
    { f with attributes := f.attributes ++ [(String.ofList name, String.ofList value)] }

end Frame

/-- Where the reader is, behind the start of a root, and what it has read of the piece that it is in. -/
inductive Place where
  | content (raw : List Char)
  | markup
  | startName (name : List Char)
  | tag (f : Frame)
  | attributeName (f : Frame) (name : List Char)
  | equals (f : Frame) (name : List Char)
  | quote (f : Frame) (name : List Char)
  | value (f : Frame) (name : List Char) (quote : Char) (raw : List Char)
  | behindValue (f : Frame)
  | emptyTag (f : Frame)
  | endName (name : List Char)
  | endTag

/-- The elements that are open stand with the innermost first. -/
inductive State where
  | prolog
  | inside (place : Place) (opened : List Frame)
  | epilog (root : Node)

def close (node : Node) : List Frame → State
  | [] => .epilog node
  | f :: above => .inside (.content []) (f.push [node] :: above)

def stepTag (f : Frame) (opened : List Frame) (c : Char) : Option State :=
  if isSpace c then some (.inside (.tag f) opened)
  else if c == '/' then some (.inside (.emptyTag f) opened)
  else if c == '>' then some (.inside (.content []) (f :: opened))
  else none

def stepEnd (c : Char) : List Frame → Option State
  | [] => none
  | f :: above =>
    if isSpace c then some (.inside .endTag (f :: above))
    else if c == '>' then some (close f.node above)
    else none

def stepInside (opened : List Frame) (c : Char) : Place → Option State
  | .content raw =>
    if c == '<' then
      match opened with
      | [] => none
      | f :: above => (text? raw).map fun s => .inside .markup (f.push (textNodes s) :: above)
    else some (.inside (.content (raw ++ [c])) opened)
  | .markup =>
    if c == '/' then some (.inside (.endName []) opened)
    else if isNameStart c then some (.inside (.startName [c]) opened)
    else none
  | .startName name =>
    if isNameChar c then some (.inside (.startName (name ++ [c])) opened)
    else stepTag { name := String.ofList name } opened c
  | .tag f =>
    if isNameStart c then some (.inside (.attributeName f [c]) opened) else stepTag f opened c
  | .attributeName f name =>
    if isNameChar c then some (.inside (.attributeName f (name ++ [c])) opened)
    else if isSpace c then some (.inside (.equals f name) opened)
    else if c == '=' then some (.inside (.quote f name) opened)
    else none
  | .equals f name =>
    if isSpace c then some (.inside (.equals f name) opened)
    else if c == '=' then some (.inside (.quote f name) opened)
    else none
  | .quote f name =>
    if isSpace c then some (.inside (.quote f name) opened)
    else if c == '"' || c == '\'' then some (.inside (.value f name c []) opened)
    else none
  | .value f name quote raw =>
    if c == quote then (f.addAttribute? name raw).map fun f => .inside (.behindValue f) opened
    else some (.inside (.value f name quote (raw ++ [c])) opened)
  | .behindValue f => stepTag f opened c
  | .emptyTag f => if c == '>' then some (close f.node opened) else none
  | .endName name =>
    if isNameChar c then some (.inside (.endName (name ++ [c])) opened)
    else if opened.head?.any (·.name == String.ofList name) then stepEnd c opened
    else none
  | .endTag => stepEnd c opened

def step : State → Char → Option State
  | .prolog, c =>
    if c == '<' then some (.inside .markup []) else if isSpace c then some .prolog else none
  | .inside place opened, c => stepInside opened c place
  | .epilog root, c => if isSpace c then some (.epilog root) else none

def run (state : State) (s : List Char) : Option State := s.foldlM step state

def State.root? : State → Option Node
  | .epilog root => some root
  | .prolog | .inside _ _ => none

def declaration : List Char := "<?xml version=\"1.0\" encoding=\"UTF-8\"?>".toList

def read (document : String) : Option Node :=
  if document.toList.all isLegal then
    let s := Workspace.unifyLineEnds document.toList
    (run .prolog (if declaration <+: s then s.drop declaration.length else s)).bind State.root?
  else none

/-! ## Looking into a document -/

namespace Node

def content : Node → List Node
  | text _ => []
  | element _ _ content => content

def isNamed (name : String) : Node → Bool
  | text _ => false
  | element own _ _ => own == name

def children (name : String) (n : Node) : List Node := n.content.filter (isNamed name)

def attribute? (name : String) : Node → Option String
  | text _ => none
  | element _ attributes _ => attributes.lookup name

def leadingText : Node → String
  | element _ _ (text s :: _) => s
  | _ => ""

end Node

example : ((read "<a x='1&#10;&lt;'>\r\n<b />&amp;</a>").bind (·.attribute? "x")) = some "1\n<" ∧
    (read "<a x='1' x='2'/>").isNone ∧ (read "<a><b></a></b>").isNone ∧ (read "<a>&#1;</a>").isNone := by
  decide +kernel

end EnvAudit.Xml
