import EnvAudit.Audit.Ignored
import EnvAudit.Text.Blank
import EnvAudit.Value.Number
import EnvAudit.Value.Shape
import EnvAudit.Value.Url
import EnvAudit.Verdict.Basic

namespace EnvAudit.Reference

structure Shape where
  phrase : String
  name : String
  holds : String → Bool

def shapes : List Shape :=
  [⟨"a URL", "URL", Value.isUrl⟩, ⟨"a number", "number", Value.isNumber⟩,
    ⟨"a boolean", "boolean", Value.isBoolean⟩, ⟨"an email", "email", Value.isEmail⟩]

def missingError (sample : Assignment) : Finding where
  kind := .missingRequired
  variableName := sample.key
  message := "Variable '" ++ sample.key ++ "' is present in example but missing from .env file"
  suggestion := some (sample.text ++
    match sample.comment.filter (· != "") with
    | some comment => " # " ++ comment
    | none => "")
  severity := .error

def extraWarning (a : Assignment) : Finding where
  kind := .unusedVariable
  variableName := a.key
  message := "Variable '" ++ a.key ++ "' is not present in .env.example"
  line := some a.line
  suggestion := some "Add this variable to .env.example or remove it if not needed"
  severity := .warning

def emptyWarning (a sample : Assignment) : Finding where
  kind := .unusedVariable
  variableName := a.key
  message := "Variable '" ++ a.key ++ "' is empty but has a value in example"
  line := some a.line
  suggestion := some ("Consider setting a value. Example: " ++ sample.value)
  severity := .warning

def shapeWarning (a sample : Assignment) (shape : Shape) : Finding where
  kind := .weakPattern
  variableName := a.key
  message := "Variable '" ++ a.key ++ "' should be " ++ shape.phrase ++ " based on example"
  line := some a.line
  suggestion := some ("Expected " ++ shape.name ++ " format like: " ++ sample.value)
  severity := .warning

def standInNote (a sample : Assignment) : Finding where
  kind := .info
  variableName := a.key
  message := "Variable '" ++ a.key ++ "' uses placeholder in example: " ++ sample.value
  line := some a.line
  severity := .info

/-- Compares a value with its sample. A sample that is blank or a stand-in says nothing. -/
def compare (a sample : Assignment) : Option Finding :=
  if Text.isBlankText sample.value || Value.isPlaceholder sample.value then none
  else if Text.isBlankText a.value then some (emptyWarning a sample)
  else
    (shapes.find? fun shape => shape.holds sample.value && !shape.holds a.value).map
      (shapeWarning a sample)

def paired (reference observed : List Assignment) : List (Assignment × Assignment) :=
  observed.filterMap fun a => (Assignment.lookup? reference a.key).map fun sample => (a, sample)

def findings (reference observed missing extra : List Assignment) : Findings :=
  let pairs := paired reference observed
  { errors := missing.map missingError
    warnings := extra.map extraWarning ++ pairs.filterMap fun (a, sample) => compare a sample
    info := (pairs.filter fun (_, sample) => Value.isPlaceholder sample.value).map
      fun (a, sample) => standInNote a sample }

def summary (reference observed : List Assignment) (found : Findings) : Summary where
  assigned := observed.length
  required := reference.length
  missing := Finding.countOf .missingRequired found.errors
  unused := Finding.countOf .unusedVariable found.warnings

variable [Host]

/-- Checks assignments against reference assignments. Keys that match the patterns may be missing from
either; a flawed pattern shows when a key is tested with it. -/
def audit (samples : List Assignment) (patterns : List String) (assignments : List Assignment) :
    Except Pattern.Error Verdict := do
  let reference := Assignment.effective samples
  let observed := Assignment.effective assignments
  let missing ← Assignment.notIgnored patterns
    (reference.filter fun sample => !Assignment.assigns observed sample.key)
  let extra ← Assignment.notIgnored patterns
    (observed.filter fun a => !Assignment.assigns reference a.key)
  let found := findings reference observed missing extra
  return .ofFindings found (summary reference observed found)

end EnvAudit.Reference
