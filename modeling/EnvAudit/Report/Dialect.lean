import EnvAudit.Json.Reader
import EnvAudit.Report.Markup
import EnvAudit.Text.Case
import EnvAudit.Text.Quoted

/-!
# Styles of terminals

The dialect of marked-up texts that are printed to terminals. A style is told by words: attributes with short
forms, which may be denied, and colours of letters and background.
-/

namespace EnvAudit.Markup

structure Wording where
  attributes : List (String × Bool) := []
  colour : Option String := none
  background : Option String := none
  link : Option String := none

namespace Wording

def attributeNames : List (String × String) :=
  [("d", "dim"), ("b", "bold"), ("i", "italic"), ("u", "underline"), ("r", "reverse"), ("c", "conceal"),
    ("s", "strike"), ("uu", "underline2"), ("o", "overline")]

def attributeOrder : List String :=
  ["bold", "dim", "italic", "underline", "blink", "blink2", "reverse", "conceal", "strike", "underline2",
    "frame", "encircle", "overline"]

def attribute? (word : String) : Option String :=
  if attributeOrder.contains word then some word else attributeNames.lookup word

def isHexColour (word : List Char) : Bool :=
  word.length == 7 && word.head? == some '#' && (word.drop 1).all fun c => (Numeral.hexValue? c).isSome

def isColour (word : String) : Bool :=
  let plain := if "bright_".isPrefixOf word then (word.drop 7).copy else word
  (Style.colours.lookup plain).isSome || word == "default" || isHexColour word.toList

def read? (w : Wording) : List String → Option Wording
  | [] => some w
  | original :: words =>
    let word := Text.lower original
    match word, words with
    | "on", colour :: words =>
      if isColour (Text.lower colour) then read? { w with background := colour } words else none
    | "not", name :: words =>
      match attribute? name with
      | some kind => read? { w with attributes := (kind, false) :: w.attributes } words
      | none => none
    | "link", link :: words => read? { w with link } words
    | _, words =>
      match attribute? word with
      | some kind => read? { w with attributes := (kind, true) :: w.attributes } words
      | none => if isColour word then read? { w with colour := word } words else none

def words (w : Wording) : List String :=
  (attributeOrder.filterMap fun kind =>
    (w.attributes.lookup kind).map fun isOn => if isOn then kind else "not " ++ kind) ++
    w.colour.toList ++ (w.background.map ("on " ++ ·)).toList ++ (w.link.map ("link " ++ ·)).toList

end Wording

def splitWords (s : List Char) : List String :=
  ((s.splitBy fun c d => Text.isBlank c == Text.isBlank d).filter fun word =>
    !(word.headD ' ' |> Text.isBlank)).map String.ofList

/-- A style by its words in their order; what is no style goes by its name in small letters. -/
def usualName (name : String) : String :=
  let words := splitWords name.toList
  if words == ["none"] then "none"
  else
    match Wording.read? {} words with
    | some w => if w.words.isEmpty then "none" else " ".intercalate w.words
    | none => Text.lower (Text.strip name)

def isLiteral (s : List Char) : Bool := (Json.read (String.ofList s)).isOk

def isParameters (s : List Char) : Bool :=
  let arguments := s.dropWhile fun c => Text.isWordChar c || c == '.'
  isLiteral s || arguments.isEmpty ||
    (arguments.head? == some '(' && arguments.getLast? == some ')' &&
      isLiteral ('[' :: (arguments.drop 1).dropLast ++ [']']))

@[reducible]
def Dialect.terminal : Dialect where
  styleName := usualName
  parameterFault? parameters :=
    let shown := Text.quoted parameters
    if isParameters (Text.trim parameters.toList) then none
    else some ("error parsing " ++ shown ++ " in " ++ shown ++ "; invalid syntax")

end EnvAudit.Markup
