import EnvAudit.Audit.Auditor
import EnvAudit.Config.Store

namespace EnvAudit

variable [Host]

def Log.debug (logger message : String) (context : Log.Context := []) : Log.Record :=
  { level := .debug, logger, message, context }

def Findings.counts (f : Findings) : String :=
  toString f.errors.length ++ " errors, " ++ toString f.warnings.length ++ " warnings, " ++
    toString f.info.length ++ " info"

namespace Config

def loadTrace (w : Workspace) (path : Option String) : List Log.Record :=
  match locate w path with
  | .ok none => [Log.debug "config" "No configuration file found, using defaults"]
  | .ok (some file) =>
    match readFile w file with
    | .ok (.map entries) =>
      match ofDocument file (.map entries) with
      | .ok _ => [Log.debug "config" ("Loaded configuration from " ++ file.toString)]
      | .error _ => []
    | _ => []
  | .error _ => []

end Config

namespace EnvFile

def trace (file : EnvFile) : Log.Record :=
  Log.debug "parser" ("Parsed " ++ toString file.assignments.length ++ " variables, " ++
    toString file.comments.length ++ " comments, " ++ toString file.malformed.length ++ " parse errors")

def loadTrace (w : Workspace) (path : String) : List Log.Record :=
  match load w path with
  | .ok file => [file.trace]
  | .error _ => []

end EnvFile

namespace Auditor

def note (auditor : Auditor) (message : String) : Log.Record :=
  Log.debug "validator" message [("env_file", .str auditor.config.envFile)]

def loadSchemaTrace (auditor : Auditor) (schema : Schema) : List Log.Record :=
  match auditor.schema, auditor.config.schemaFile with
  | none, some path =>
    [Log.debug "schema_loader" ("Loaded schema " ++ (Location.ofString path).toString ++ ": " ++
      toString schema.specs.length ++ " variables, " ++ toString schema.rules.length ++ " rules, " ++
      toString schema.securityRules.length ++ " security rules")]
  | _, _ => []

def schemaTrace (auditor : Auditor) (w : Workspace) (assignments : List Assignment) : List Log.Record :=
  match auditor.loadSchema w with
  | .error _ => []
  | .ok schema =>
    auditor.loadSchemaTrace schema ++
      match auditor.againstSchema schema assignments with
      | .ok v => [Log.debug "schema_validator" ("Schema validation: " ++ v.findings.counts)]
      | .error _ => []

def loadSamplesTrace (auditor : Auditor) (w : Workspace) : List Log.Record :=
  if auditor.samples.isSome then []
  else
    EnvFile.loadTrace w
      (Location.ofString ((filled auditor.config.exampleFile).getD defaultExampleFile)).toString

def samplesTrace (auditor : Auditor) (w : Workspace) (assignments : List Assignment) : List Log.Record :=
  auditor.loadSamplesTrace w ++
    match auditor.againstSamples w assignments with
    | .ok v => [Log.debug "example_validator" ("Example validation: " ++ v.findings.counts)]
    | .error _ => []

def compareTrace (auditor : Auditor) (w : Workspace) (assignments : List Assignment) : List Log.Record :=
  match auditor.mode with
  | .schema => auditor.schemaTrace w assignments
  | .example => auditor.samplesTrace w assignments
  | .both =>
    auditor.schemaTrace w assignments ++
      if ((auditor.loadSchema w).bind (auditor.againstSchema · assignments)).isOk then
        auditor.samplesTrace w assignments
      else []
  | .unsupported _ => []

def concludeTrace (auditor : Auditor) (file : EnvFile) (compared : Verdict × List SecurityRule) :
    List Log.Record :=
  let security := Security.analyze (auditor.config.securityRules ++ compared.2) file.assignments
  match auditor.conclude file compared with
  | .ok verdict =>
    [Log.debug "security" ("Security analysis of " ++ toString file.assignments.length ++
        " variables: " ++ security.counts),
      auditor.note ("Validation finished: " ++ verdict.findings.counts)]
  | .error _ => []

def auditTrace (auditor : Auditor) (w : Workspace) (file : EnvFile) : List Log.Record :=
  if file.malformed.isEmpty then
    auditor.note ("Validating in " ++ Log.display auditor.mode.toJson ++ " mode") ::
      auditor.compareTrace w file.assignments ++
      match auditor.compare w file.assignments with
      | .ok compared => auditor.concludeTrace file compared
      | .error _ => []
  else [auditor.note ("Aborting on " ++ toString file.malformed.length ++ " parse errors")]

def fileTrace (auditor : Auditor) (w : Workspace) : List Log.Record :=
  auditor.note "Reading environment file" :: EnvFile.loadTrace w auditor.config.envFile ++
    match EnvFile.load w auditor.config.envFile with
    | .ok file => auditor.auditTrace w file
    | .error _ => []

end Auditor

end EnvAudit
