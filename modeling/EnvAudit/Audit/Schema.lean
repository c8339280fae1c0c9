import EnvAudit.Audit.Ignored
import EnvAudit.Audit.Rules
import EnvAudit.Failure
import EnvAudit.Text.Blank
import EnvAudit.Verdict.Basic

namespace EnvAudit

def filled (s : Option String) : Option String := s.filter (· != "")

variable [Host]

namespace VariableSpec

def additionHint (key : String) (spec : VariableSpec) : String :=
  "Add " ++ key ++ "=" ++ (filled spec.sample).getD "<value>" ++
    match filled spec.description with
    | some description => " # " ++ description
    | none => ""

def sampleHint (spec : VariableSpec) : Option String := (filled spec.sample).map ("Example: " ++ ·)

def replacementHint (spec : VariableSpec) : String :=
  if spec.alternatives.isEmpty then "Consider removing this variable"
  else "Consider using: " ++ ", ".intercalate spec.alternatives

def formatError (spec : VariableSpec) (a : Assignment) (complaint : String) : Finding where
  kind := .invalidFormat
  variableName := a.key
  message := "Variable '" ++ a.key ++ "' " ++ complaint
  line := some a.line
  suggestion := spec.sampleHint
  severity := .error

def typeErrors (spec : VariableSpec) (a : Assignment) : List Finding :=
  match spec.type.bind ValueType.check? with
  | some (holds, expected) =>
    if holds a.value then [] else [spec.formatError a ("must be " ++ expected)]
  | none => []

def patternErrors (spec : VariableSpec) (a : Assignment) : List Finding :=
  if spec.pattern.any (!·.search a.value) then
    [spec.formatError a "does not match required pattern"]
  else []

def valueErrors (spec : VariableSpec) (a : Assignment) : List Finding :=
  if Text.isBlankText a.value then
    if spec.allowEmpty then [] else [spec.formatError a "cannot be empty"]
  else spec.typeErrors a ++ spec.patternErrors a

def deprecationWarnings (spec : VariableSpec) (a : Assignment) : List Finding :=
  if spec.deprecated then
    [{ kind := .deprecated
       variableName := a.key
       message := "Variable '" ++ a.key ++ "' is deprecated"
       line := some a.line
       suggestion := some spec.replacementHint
       severity := .warning }]
  else []

end VariableSpec

namespace Schema

def missingError (key : String) (spec : VariableSpec) : Finding where
  kind := .missingRequired
  variableName := key
  message := "Required environment variable '" ++ key ++ "' is missing"
  suggestion := some (spec.additionHint key)
  severity := .error

def missingErrors (schema : Schema) (observed : List Assignment) : List Finding :=
  (schema.specs.filter fun (key, spec) => spec.required && !Assignment.assigns observed key).map
    fun (key, spec) => missingError key spec

def undeclaredWarning (a : Assignment) : Finding where
  kind := .unusedVariable
  variableName := a.key
  message := "Variable '" ++ a.key ++ "' is not defined in schema"
  line := some a.line
  suggestion := some "Remove this variable or add it to your schema"
  severity := .warning

def declared (schema : Schema) (observed : List Assignment) : List (Assignment × VariableSpec) :=
  observed.filterMap fun a => (schema.spec? a.key).map fun spec => (a, spec)

def findings (schema : Schema) (observed undeclared : List Assignment) : Findings :=
  let declared := schema.declared observed
  { errors := schema.missingErrors observed ++ declared.flatMap fun (a, spec) => spec.valueErrors a
    warnings := undeclared.map undeclaredWarning ++
      declared.flatMap fun (a, spec) => spec.deprecationWarnings a }

def summary (schema : Schema) (observed : List Assignment) (found : Findings) : Summary where
  assigned := observed.length
  required := schema.requiredKeys.length
  missing := Finding.countOf .missingRequired found.errors
  unused := Finding.countOf .unusedVariable found.warnings
  securityIssues := Finding.countOf .securityRisk found.errors

/-- Checks assignments against the schema. Keys that match the patterns of the schema or further patterns
need not be declared; a flawed pattern shows when a key is tested with it. -/
def audit (schema : Schema) (patterns : List String) (assignments : List Assignment) :
    Except Failure Verdict := do
  let observed := Assignment.effective assignments
  let undeclared ← (Assignment.notIgnored (schema.ignorePatterns.map (·.text) ++ patterns)
    (observed.filter fun a => (schema.spec? a.key).isNone)).mapError .pattern
  let ruled ← (Rule.applyAll schema.rules observed).mapError .raised
  let found := schema.findings observed undeclared ++ ruled
  return .ofFindings found (schema.summary observed found)

end Schema

end EnvAudit
