import EnvAudit.Text.Blank

namespace EnvAudit.Xml

inductive Element where
  | mk (name : String) (attributes : List (String × String)) (text : String) (children : List Element)
  deriving Repr, Inhabited

def textChar (c : Char) : List Char :=
  if c == '&' then "&amp;".toList
  else if c == '<' then "&lt;".toList
  else if c == '>' then "&gt;".toList
  else [c]

def attributeChar (c : Char) : List Char :=
  if c == '"' then "&quot;".toList
  else if c == '\r' then "&#13;".toList
  else if c == '\n' then "&#10;".toList
  else if c == '\t' then "&#09;".toList
  else textChar c

def writeText (s : String) : List Char := s.toList.flatMap textChar

def writeAttribute (attr : String × String) : List Char :=
  ' ' :: attr.1.toList ++ '=' :: '"' :: attr.2.toList.flatMap attributeChar ++ ['"']

abbrev Indent := Option Nat

def breakAt (indent : Indent) (level : Nat) : List Char :=
  match indent with
  | none => []
  | some spaces => '\n' :: List.replicate (spaces * level) ' '

mutual

def write (indent : Indent) (level : Nat) : Element → List Char
  | .mk name attributes text children =>
    let head := '<' :: name.toList ++ attributes.flatMap writeAttribute
    let tail := '<' :: '/' :: name.toList ++ ['>']
    match children with
    | [] => if text == "" then head ++ " />".toList else head ++ '>' :: writeText text ++ tail
    | _ :: _ =>
      let front := if Text.isBlankText text && indent.isSome then [] else writeText text
      head ++ '>' :: front ++ writeChildren indent (level + 1) children ++ breakAt indent level ++ tail

def writeChildren (indent : Indent) (level : Nat) : List Element → List Char
  | [] => []
  | child :: children =>
    breakAt indent level ++ write indent level child ++ writeChildren indent level children

end

end EnvAudit.Xml
