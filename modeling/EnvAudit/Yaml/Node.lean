import EnvAudit.Pattern
import EnvAudit.Yaml.Token

namespace EnvAudit.Yaml

inductive Node where
  | scalar (tag text : String)
  | sequence (tag : String) (items : List Node)
  | mapping (tag : String) (entries : List (Node × Node))
  deriving Repr, Inhabited

namespace Node

def tag : Node → String
  | scalar tag _ | sequence tag _ | mapping tag _ => tag

end Node

/-! ## Tags -/

def standardTag (name : String) : String := "tag:yaml.org,2002:" ++ name

/-- The forms of plain scalars that have a tag of their own: the characters that they can start with, and
their pattern. -/
def forms : List (String × List Char × Pattern.Plain) :=
  let digits := "0123456789".toList
  [("bool", "yYnNtTfFoO".toList, .ofText
      "^(?:yes|Yes|YES|no|No|NO|true|True|TRUE|false|False|FALSE|on|On|ON|off|Off|OFF)$"),
    ("float", "-+.".toList ++ digits, .ofText
      ("^(?:[-+]?(?:[0-9][0-9_]*)\\.[0-9_]*(?:[eE][-+][0-9]+)?|\\.[0-9][0-9_]*(?:[eE][-+][0-9]+)?" ++
        "|[-+]?[0-9][0-9_]*(?::[0-5]?[0-9])+\\.[0-9_]*|[-+]?\\.(?:inf|Inf|INF)|\\.(?:nan|NaN|NAN))$")),
    ("int", "-+".toList ++ digits, .ofText
      ("^(?:[-+]?0b[0-1_]+|[-+]?0[0-7_]+|[-+]?(?:0|[1-9][0-9_]*)|[-+]?0x[0-9a-fA-F_]+" ++
        "|[-+]?[1-9][0-9_]*(?::[0-5]?[0-9])+)$")),
    ("merge", ['<'], .ofText "^(?:<<)$"),
    ("null", "~nN".toList, .ofText "^(?:~|null|Null|NULL)$"),
    ("timestamp", digits, .ofText
      ("^(?:[0-9][0-9][0-9][0-9]-[0-9][0-9]-[0-9][0-9]" ++
        "|[0-9][0-9][0-9][0-9]-[0-9][0-9]?-[0-9][0-9]?(?:[Tt]|[ \\t]+)[0-9][0-9]?:[0-9][0-9]:[0-9][0-9]" ++
        "(?:\\.[0-9]*)?(?:[ \\t]*(?:Z|[-+][0-9][0-9]?(?::[0-9][0-9])?))?)$")),
    ("value", ['='], .ofText "^(?:=)$"),
    ("yaml", ['!', '&', '*'], .ofText "^(?:!|&|\\*)$")]

def plainTag (text : String) : String :=
  match text.toList with
  | [] => standardTag "null"
  | c :: _ =>
    match forms.find? fun (_, starts, pattern) => starts.contains c && pattern.search text with
    | some (name, _, _) => standardTag name
    | none => standardTag "str"

def standardHandles : List (String × String) := [("!", "!"), ("!!", "tag:yaml.org,2002:")]

/-! ## Reading nodes -/

/-- The tokens that are left, the handles of tags, and the nodes of anchors; the node of an anchor is not
known before its end. -/
structure Source where
  tokens : List Token
  handles : List (String × String) := standardHandles
  anchors : List (String × Option Node) := []

abbrev Compose := StateT Source (Except Fault)

namespace Compose

def peek : Compose Token := do
  match (← get).tokens with
  | [] => return .done
  | .stop fault :: _ => throw fault
  | token :: _ => return token

def skip : Compose Unit := modify fun s => { s with tokens := s.tokens.drop 1 }

def accept (token : Token) : Compose Bool := do
  if (← peek) == token then
    skip
    return true
  return false

def expect (token : Token) : Compose Unit := do
  if !(← accept token) then throw .malformed

def emptyNode : Node := .scalar (standardTag "null") ""

def anchor? : Compose (Option String) := do
  match ← peek with
  | .anchor name => skip; return some name
  | _ => return none

def tag? : Compose (Option (Option String × String)) := do
  match ← peek with
  | .tag handle suffix => skip; return some (handle, suffix)
  | _ => return none

def properties : Compose (Option String × Option (Option String × String)) := do
  let first ← anchor?
  let tag ← tag?
  let second ← if first.isNone && tag.isSome then anchor? else pure none
  return (first.or second, tag)

def fullTag : Option String × String → Compose String
  | (none, suffix) => return suffix
  | (some handle, suffix) => do
    match (← get).handles.lookup handle with
    | some stem => return stem ++ suffix
    | none => throw .malformed

def collectionTag (usual : String) : Option String → String
  | none => standardTag usual
  | some tag => if tag == "!" then standardTag usual else tag

def scalarTag (text : String) (isPlain : Bool) : Option String → String
  | none => if isPlain then plainTag text else standardTag "str"
  | some tag => if tag == "!" then plainTag text else tag

def openAnchor : Option String → Compose Unit
  | none => return
  | some name => do
    let s ← get
    if s.anchors.any (·.1 == name) then throw .malformed
    set { s with anchors := (name, none) :: s.anchors }

def closeAnchor (name : Option String) (node : Node) : Compose Node := do
  match name with
  | none => return node
  | some name =>
    modify fun s => { s with anchors := (name, some node) :: s.anchors }
    return node

def resolve (name : String) : Compose Node := do
  match (← get).anchors.lookup name with
  | some (some node) => return node
  | _ => throw .malformed

mutual

def node (inBlock bare : Bool) : Nat → Compose Node
  | 0 => throw .malformed
  | fuel + 1 => do
    if let .aliasOf name ← peek then
      skip
      return ← resolve name
    let (anchor, parts) ← properties
    let tag ← parts.mapM fullTag
    openAnchor anchor
    match ← peek with
    | .scalar text isPlain =>
      skip
      closeAnchor anchor (.scalar (scalarTag text isPlain tag) text)
    | .flowSequence =>
      skip
      closeAnchor anchor (.sequence (collectionTag "seq" tag) (← flowItems true fuel))
    | .flowMapping =>
      skip
      closeAnchor anchor (.mapping (collectionTag "map" tag) (← flowEntries true fuel))
    | token =>
      if bare && token == .blockEntry then
        closeAnchor anchor (.sequence (collectionTag "seq" tag) (← bareItems fuel))
      else if inBlock && token == .blockSequence then
        skip
        closeAnchor anchor (.sequence (collectionTag "seq" tag) (← blockItems fuel))
      else if inBlock && token == .blockMapping then
        skip
        closeAnchor anchor (.mapping (collectionTag "map" tag) (← blockEntries fuel))
      else if anchor.isSome || tag.isSome then
        closeAnchor anchor (.scalar (scalarTag "" true tag) "")
      else throw .malformed

def nodeUnless (stops : List Token) (inBlock bare : Bool) : Nat → Compose Node
  | 0 => throw .malformed
  | fuel + 1 => do
    if stops.contains (← peek) then return emptyNode else node inBlock bare fuel

def blockItems : Nat → Compose (List Node)
  | 0 => throw .malformed
  | fuel + 1 => do
    if ← accept .blockEntry then
      let item ← nodeUnless [.blockEntry, .blockEnd] true false fuel
      return item :: (← blockItems fuel)
    expect .blockEnd
    return []

def bareItems : Nat → Compose (List Node)
  | 0 => throw .malformed
  | fuel + 1 => do
    if ← accept .blockEntry then
      let item ← nodeUnless [.blockEntry, .key, .value, .blockEnd] true false fuel
      return item :: (← bareItems fuel)
    return []

def blockEntries : Nat → Compose (List (Node × Node))
  | 0 => throw .malformed
  | fuel + 1 => do
    let stops := [Token.key, .value, .blockEnd]
    if ← accept .key then
      let key ← nodeUnless stops true true fuel
      let value ← if ← accept .value then nodeUnless stops true true fuel else pure emptyNode
      return (key, value) :: (← blockEntries fuel)
    expect .blockEnd
    return []

def flowItems (first : Bool) : Nat → Compose (List Node)
  | 0 => throw .malformed
  | fuel + 1 => do
    if ← accept .flowSequenceEnd then return []
    if !first then expect .flowEntry
    if ← accept .key then
      let key ← nodeUnless [.value, .flowEntry, .flowSequenceEnd] false false fuel
      let value ← if ← accept .value then
          nodeUnless [.flowEntry, .flowSequenceEnd] false false fuel
        else pure emptyNode
      return .mapping (standardTag "map") [(key, value)] :: (← flowItems false fuel)
    if ← accept .flowSequenceEnd then return []
    let item ← node false false fuel
    return item :: (← flowItems false fuel)

def flowEntries (first : Bool) : Nat → Compose (List (Node × Node))
  | 0 => throw .malformed
  | fuel + 1 => do
    if ← accept .flowMappingEnd then return []
    if !first then expect .flowEntry
    if ← accept .key then
      let key ← nodeUnless [.value, .flowEntry, .flowMappingEnd] false false fuel
      let value ← if ← accept .value then
          nodeUnless [.flowEntry, .flowMappingEnd] false false fuel
        else pure emptyNode
      return (key, value) :: (← flowEntries false fuel)
    if ← accept .flowMappingEnd then return []
    let key ← node false false fuel
    return (key, emptyNode) :: (← flowEntries false fuel)

end

/-! ## Documents -/

def directives (sawVersion : Bool) (handles : List (String × String)) :
    Nat → Compose (List (String × String))
  | 0 => throw .malformed
  | fuel + 1 => do
    match ← peek with
    | .directive (.version major) =>
      if sawVersion || major != 1 then throw .malformed
      skip
      directives true handles fuel
    | .directive (.tag handle stem) =>
      if handles.any (·.1 == handle) then throw .malformed
      skip
      directives sawVersion (handles ++ [(handle, stem)]) fuel
    | .directive .other =>
      skip
      directives sawVersion handles fuel
    | _ => return handles

def start (fuel : Nat) : Compose Bool := do
  match ← peek with
  | .directive _ | .documentStart =>
    let handles ← directives false [] fuel
    expect .documentStart
    modify fun s => { s with handles := handles ++ standardHandles }
    return true
  | _ => return false

def skipEnds : Nat → Compose Unit
  | 0 => throw .malformed
  | fuel + 1 => do
    if ← accept .documentEnd then skipEnds fuel

def isEmptyAt : Token → Bool
  | .directive _ | .documentStart | .documentEnd | .done => true
  | _ => false

def document (fuel : Nat) : Compose (Option Node) := do
  if (← peek) == .done then return none
  let isMarked ← start fuel
  let root ← if isMarked && isEmptyAt (← peek) then pure emptyNode else node true false fuel
  skipEnds fuel
  if (← peek) != .done then throw .malformed
  return some root

end Compose

def readNode (text : String) : Except Fault (Option Node) :=
  if text.toList.all isAllowed then
    let tokens := tokens text.toList
    (Compose.document (4 * tokens.length + 8)).run' { tokens }
  else .error .malformed

end EnvAudit.Yaml
