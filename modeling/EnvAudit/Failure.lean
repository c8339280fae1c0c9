import EnvAudit.Document.Basic
import EnvAudit.Document.Checked
import EnvAudit.Json.Reader
import EnvAudit.Numeral
import EnvAudit.VariableName
import EnvAudit.Text.Case
import EnvAudit.Workspace
import EnvAudit.Yaml.Cursor

/-!
# Failures

Why an audit, or a part of one, cannot be carried out. A `SettingsFault` is something wrong with the
configuration, the schema or the reference file; a `Failure` is that or anything else that goes wrong. What
is said of refused documents and of YAML texts is left open in the messages, and marked as such.
-/

namespace EnvAudit

inductive TextFault where
  | json (error : Json.ReadError)
  | yaml

def yamlMark : String := "<yaml>"

def causesMark : String := "<causes>"

def TextFault.message : TextFault → String
  | json error => error.message
  | yaml => yamlMark

inductive SettingsFault where
  | schemaMissing (file : Location)
  | schemaFormat (file : Location)
  | schemaUnreadable (file : Location) (fault : ReadFault)
  | schemaMalformed (file : Location) (fault : TextFault)
  | schemaNotMapping (source : String)
  | schemaVariable (source : String) (fault : VariableName.Fault)
  | schemaRefused (source : String) (causes : List Cause)
  | schemaNotGiven
  | exampleMissing (file : Location)
  | exampleMalformed (file : Location) (count : Nat) (firstLine : Int) (message : String)
  | modeUnknown (mode : String)
  | configMissing (path : String)
  | configUnreadable (file : Location) (fault : ReadFault)
  | configMalformed (file : Location) (fault : TextFault)
  | configNotMapping (file : Location)
  | configRefused (file : Location) (causes : List Cause)
  | optionsUnknown (names : List String)
  | optionsRefused (causes : List Cause)

namespace SettingsFault

def configMessage (file : Location) (reason : String) : String :=
  "Failed to load configuration from " ++ file.toString ++ ": " ++ reason

def message : SettingsFault → String
  | schemaMissing file => "Schema file not found: " ++ file.toString
  | schemaFormat file =>
    let format := (Text.lower file.suffix)
    "Unsupported schema file format '" ++ (if format == "" then file.name else format) ++
      "', use .json, .yaml or .yml"
  | schemaUnreadable file fault =>
    "Failed to read schema file " ++ file.toString ++ ": " ++ fault.message
  | schemaMalformed file fault =>
    "Failed to parse schema file " ++ file.toString ++ ": " ++ fault.message
  | schemaNotMapping source => "Schema must be a mapping: " ++ source
  | schemaVariable source fault => "Invalid schema variable in " ++ source ++ ": " ++ fault.message
  | schemaRefused source _ => "Invalid schema in " ++ source ++ ": " ++ causesMark
  | schemaNotGiven => "Schema file is required for schema validation"
  | exampleMissing file => "Example file not found: " ++ file.toString
  | exampleMalformed file count firstLine message =>
    "Example file " ++ file.toString ++ " has " ++ toString count ++ " parse error(s), first at line " ++
      Numeral.render firstLine ++ ": " ++ message
  | modeUnknown mode => "Unknown validation mode: " ++ mode
  | configMissing path => "Configuration file not found: " ++ path
  | configUnreadable file fault => configMessage file fault.message
  | configMalformed file fault => configMessage file fault.message
  | configNotMapping file => configMessage file "configuration must be a mapping"
  | configRefused file _ => configMessage file causesMark
  | optionsUnknown names => "Unknown configuration option: " ++ ", ".intercalate names
  | optionsRefused _ => "Invalid command-line option: " ++ causesMark

def concerns : SettingsFault → Option String × Option String
  | schemaMissing file | schemaFormat file | schemaUnreadable file _ | schemaMalformed file _ |
    configUnreadable file _ | configMalformed file _ | configNotMapping file | configRefused file _ =>
    (none, some file.toString)
  | schemaNotMapping source | schemaVariable source _ | schemaRefused source _ => (none, some source)
  | schemaNotGiven => (some "schema_file", none)
  | exampleMissing file | exampleMalformed file .. => (some "example_file", some file.toString)
  | modeUnknown _ => (some "mode", none)
  | configMissing path => (none, some path)
  | optionsUnknown _ | optionsRefused _ => (none, none)

def details (fault : SettingsFault) : List (String × String) :=
  let (key, path) := fault.concerns
  let detail := fun name value =>
    match value with
    | some (text : String) => if text == "" then [] else [(name, text)]
    | none => []
  detail "config_key" key ++ detail "path" path

def causes? : SettingsFault → Option (List Cause)
  | schemaRefused _ causes | configRefused _ causes | optionsRefused causes => some causes
  | _ => none

end SettingsFault

/-- Why something cannot be done. The last ones are no faults of the settings but of single values, or of
the workspace. -/
inductive Failure where
  | settings (fault : SettingsFault)
  | unreadable (file reason : String)
  | present (file : Location)
  | badName (fault : VariableName.Fault)
  | refused (record : String) (causes : List Cause)
  | path (error : PathError)
  | pattern (error : Pattern.Error)
  | predicate (message : String)
  | markup (message : String)
  | badValue (message : String)
  | tooLarge (message : String)
  | wrongKind (message : String)
  | unknownKey (key : String)
  | noAttribute (message : String)
  | outOfRange (message : String)
  | raised (complaint : Complaint)

namespace Failure

def code? : Failure → Option String
  | settings _ => some "CONFIG_ERROR"
  | unreadable .. => some "FILE_READ_ERROR"
  | present _ => some "FILE_EXISTS"
  | badName _ => some "VALIDATION_ERROR"
  | raised complaint => complaint.code?
  | _ => none

def message : Failure → String
  | settings fault => fault.message
  | unreadable file reason => "Failed to read file " ++ file ++ ": " ++ reason
  | present file => "File " ++ file.toString ++ " already exists"
  | badName fault => fault.message
  | refused _ _ => causesMark
  | path error => error.message
  | pattern error => error.message
  | predicate message | markup message | badValue message | tooLarge message | wrongKind message |
    noAttribute message | outOfRange message => message
  | raised complaint => complaint.message
  | unknownKey key => Text.quoted key

def details : Failure → List (String × String)
  | settings fault => fault.details
  | unreadable file _ => [("path", file)]
  | present file => [("path", file.toString)]
  | badName _ => [("field", "name")]
  | _ => []

def causes? : Failure → Option (List Cause)
  | settings fault => fault.causes?
  | refused _ causes => some causes
  | _ => none

def status : Failure → Nat
  | raised complaint => complaint.status
  | _ => 1

def ofHalt : Halt → Failure
  | .pattern error => pattern error
  | .raised r => .raised (.raised r)
  | .relativeModule name =>
    wrongKind ("the 'package' argument is required to perform a relative import for " ++ Text.quoted name)

def ofHidden : Document.Hidden → Failure
  | .tooLong message => badValue message
  | .tooDeep => .raised (.raised .exhausted)

def ofYaml? : Yaml.Fault → Option Failure
  | .malformed => none
  | .badValue message => some (badValue message)
  | .tooLarge message => some (tooLarge message)
  | .unknownWord word => some (unknownKey word)
  | .emptyNumber => some (outOfRange "string index out of range")
  | .noTimestamp => some (noAttribute "'NoneType' object has no attribute 'groupdict'")

end Failure

def Checked.toExcept {α : Type} (refusal : List Cause → Failure) : Checked α → Except Failure α
  | ok value => .ok value
  | refused causes => .error (refusal causes)
  | aborted halt => .error (.ofHalt halt)

end EnvAudit
