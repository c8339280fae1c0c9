import EnvAudit.Audit.Reference
import EnvAudit.Audit.Schema
import EnvAudit.Audit.Security
import EnvAudit.Config.Basic
import EnvAudit.EnvFile.Store
import EnvAudit.Log
import EnvAudit.Schema.Store

/-!
# Audits

An audit compares a file with a schema, with a reference file, or with both, applies the rules of the
configuration, notes keys that are assigned again, and analyses the security of every assignment. A file with
malformed lines is not audited any further. Schema and reference are given, or loaded from the files that the
configuration names.
-/

namespace EnvAudit

variable [Host]

structure Auditor where
  config : Config := .default
  schema : Option Schema := none
  samples : Option (List Assignment) := none
  deriving Inhabited

namespace Auditor

def defaultExampleFile : String := ".env.example"

/-- What the file is compared with: what the configuration says, or else what is available. -/
def mode (auditor : Auditor) : Mode :=
  match auditor.config.mode with
  | some mode => mode
  | none =>
    let hasSchema := auditor.schema.isSome || (filled auditor.config.schemaFile).isSome
    let hasExample := auditor.samples.isSome || (filled auditor.config.exampleFile).isSome
    if hasSchema && hasExample then .both else if hasSchema then .schema else .example

def loadSchema (auditor : Auditor) (w : Workspace) : Except Failure Schema :=
  match auditor.schema, filled auditor.config.schemaFile with
  | some schema, _ => .ok schema
  | none, some path => Schema.load w path
  | none, none => .error (.settings .schemaNotGiven)

def readSamples (w : Workspace) (file : Location) : Except Failure (List Assignment) := do
  let parsed ← EnvFile.load w file.toString
  match parsed.malformed with
  | [] => return parsed.assignments
  | first :: others =>
    throw (.settings (.exampleMalformed file (others.length + 1) first.line MalformedLine.message))

def loadSamples (auditor : Auditor) (w : Workspace) : Except Failure (List Assignment) :=
  match auditor.samples with
  | some samples => .ok samples
  | none =>
    let file := Location.ofString ((filled auditor.config.exampleFile).getD defaultExampleFile)
    match w.exists? file.toString with
    | .error error => .error (.path error)
    | .ok false => .error (.settings (.exampleMissing file))
    | .ok true => readSamples w file

def ignoreTexts (auditor : Auditor) : List String := auditor.config.ignorePatterns.map (·.text)

def againstSchema (auditor : Auditor) (schema : Schema) (assignments : List Assignment) :
    Except Failure Verdict :=
  schema.audit auditor.ignoreTexts assignments

def againstSamples (auditor : Auditor) (w : Workspace) (assignments : List Assignment) :
    Except Failure Verdict := do
  let samples ← auditor.loadSamples w
  (Reference.audit samples auditor.ignoreTexts assignments).mapError .pattern

def unknownMode (value : Json) : Failure :=
  match value.toDocument.display with
  | .ok shown => .settings (.modeUnknown shown)
  | .error hidden => .ofHidden hidden

def compare (auditor : Auditor) (w : Workspace) (assignments : List Assignment) :
    Except Failure (Verdict × List SecurityRule) :=
  match auditor.mode with
  | .schema => do
    let schema ← auditor.loadSchema w
    return (← auditor.againstSchema schema assignments, schema.securityRules)
  | .example => do
    return (← auditor.againstSamples w assignments, [])
  | .both => do
    let schema ← auditor.loadSchema w
    let first ← auditor.againstSchema schema assignments
    let second ← auditor.againstSamples w assignments
    return (first.merge second, schema.securityRules)
  | .unsupported value => .error (unknownMode value)

def repeatedNote (winner : Assignment) : Finding where
  kind := .info
  variableName := winner.key
  message := "Variable '" ++ winner.key ++ "' is defined multiple times; using the value from line " ++
    Numeral.render winner.line
  line := some winner.line
  severity := .info

def repeatedNotes (file : EnvFile) : List Finding :=
  (file.repeatedKeys.filterMap file.lookup?).map repeatedNote

/-- The verdict on a file from the comparison and everything that does not depend on it. -/
def conclude (auditor : Auditor) (file : EnvFile) (compared : Verdict × List SecurityRule) :
    Except Failure Verdict := do
  let (verdict, securityRules) := compared
  let ruled ← (Rule.applyAll auditor.config.customRules file.effective).mapError .raised
  let security := Security.analyze (auditor.config.securityRules ++ securityRules) file.assignments
  let findings := verdict.findings ++ ruled ++ { info := repeatedNotes file } ++ security
  return .ofFindings findings { verdict.summary with securityIssues := security.errors.length }

def audit (auditor : Auditor) (w : Workspace) (file : EnvFile) : Except Failure Verdict :=
  if file.malformed.isEmpty then do auditor.conclude file (← auditor.compare w file.assignments)
  else .ok (.ofMalformed file.malformed .zero)

def auditText (auditor : Auditor) (w : Workspace) (text : String) : Except Failure Verdict :=
  auditor.audit w (EnvFile.parse text)

def auditFile (auditor : Auditor) (w : Workspace) : Except Failure Verdict := do
  auditor.audit w (← EnvFile.load w auditor.config.envFile)

end Auditor

end EnvAudit
