import EnvAudit.Failure
import EnvAudit.Json.Writer
import EnvAudit.Schema.Document
import EnvAudit.Yaml.Reader
import EnvAudit.Yaml.Writer

namespace EnvAudit

namespace Json

def savedLayout : Layout := { indent := some 2, ascii := true }

/-- Reads a JSON text; a number with too many digits is a bad value rather than a malformed text. -/
def readDocument (text : String) : Except Failure (Except Json.ReadError Document) :=
  match read text with
  | .ok json => .ok (.ok json.toDocument)
  | .error (.tooManyDigits count) => .error (.badValue (Numeral.tooManyDigitsRead count))
  | .error flaw => .ok (.error flaw)

end Json

namespace Yaml

def readDocument? (text : String) : Except Failure (Option Document) :=
  match read text with
  | .ok document => .ok (some document)
  | .error fault =>
    match Failure.ofYaml? fault with
    | some failure => .error failure
    | none => .ok none

end Yaml

namespace Schema

variable [Host]

/-- What a document declares variables under. What is neither a mapping nor a list of some kind declares none,
and if it is not empty that is an error. -/
def declaredNames : Document → Except Failure (List Document)
  | .map entries => .ok (entries.map (·.1))
  | .list items => .ok items
  | .set items => .ok items
  | .pair first second => .ok [first, second]
  | .text s => .ok (s.toList.map fun c => .text (String.ofList [c]))
  | .bytes value => .ok (value.map fun b => .int b.toNat)
  | .null | .bool false | .int 0 => .ok []
  | .float x => if x.toInt? == some 0 then .ok [] else notIterable (.float x)
  | other => notIterable other
where
  /-- The error on a value that cannot be gone through. -/
  notIterable (d : Document) : Except Failure (List Document) :=
    .error (.wrongKind ("'" ++ d.kindName ++ "' object is not iterable"))

def checkNames (source : String) : List Document → Except Failure Unit
  | [] => .ok ()
  | item :: items =>
    match item.display with
    | .error hidden => .error (.ofHidden hidden)
    | .ok name =>
      match VariableName.check name with
      | .ok _ => checkNames source items
      | .error fault => .error (.settings (.schemaVariable source fault))

def ofDocument (source : String) (d : Document) : Except Failure Schema :=
  match d with
  | .null => .ok {}
  | .map entries => do
    let names ← declaredNames ((Document.valueOf? entries "variables").getD .null)
    checkNames source names
    (decode d).toExcept fun causes => .settings (.schemaRefused source causes)
  | _ => .error (.settings (.schemaNotMapping source))

def readText (file : Location) (isJson : Bool) (text : String) : Except Failure Document := do
  if isJson then
    match ← Json.readDocument text with
    | .ok document => return document
    | .error error => throw (.settings (.schemaMalformed file (.json error)))
  else
    match ← Yaml.readDocument? text with
    | some document => return document
    | none => throw (.settings (.schemaMalformed file .yaml))

def isJsonFile (file : Location) : Bool := Text.lower file.suffix == ".json"

def isYamlFile (file : Location) : Bool := [".yaml", ".yml"].contains (Text.lower file.suffix)

def load (w : Workspace) (path : String) : Except Failure Schema := do
  let file := Location.ofString path
  match w.exists? file.toString with
  | .error error => throw (.path error)
  | .ok false => throw (.settings (.schemaMissing file))
  | .ok true =>
    if !isJsonFile file && !isYamlFile file then throw (.settings (.schemaFormat file))
    match w.readText file.toString with
    | .error fault => throw (.settings (.schemaUnreadable file fault))
    | .ok text => ofDocument file.toString (← readText file (isJsonFile file) text)

def writeText (file : Location) (document : Json) : String :=
  if isJsonFile file then Json.write Json.savedLayout document ++ "\n" else Yaml.write document

def save (w : Workspace) (schema : Schema) (path : String) : Except Failure (Location × Workspace) :=
  let file := Location.ofString path
  match w.save file (writeText file schema.toDocument) with
  | .ok w => .ok (file, w)
  | .error error => .error (.path error)

end Schema

end EnvAudit
