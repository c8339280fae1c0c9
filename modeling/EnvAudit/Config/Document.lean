import EnvAudit.Config.Basic
import EnvAudit.Schema.Document

/-!
# Configurations as documents

Configurations read from documents and written as JSON values, and the values of command-line options laid
over a configuration.
-/

namespace EnvAudit.Config

open Document (Field asText asFlag asList asRecord asOptional asOneOf optionalField)

def fieldNames : List String :=
  ["env_file", "schema_file", "example_file", "mode", "output_format", "strict", "verbose",
    "exit_on_error", "ignore_patterns", "custom_rules", "security_rules"]

variable [Host]

def decode : Document → Checked Config :=
  asRecord fun entries =>
    Config.mk <$> optionalField asText ⟨"env_file", "envFile"⟩ ".env" entries
      <*> optionalField (asOptional asText) ⟨"schema_file", "schemaFile"⟩ none entries
      <*> optionalField (asOptional asText) ⟨"example_file", "exampleFile"⟩ none entries
      <*> optionalField (asOptional (asOneOf .choiceUnknown Mode.ofWord?)) (.plain "mode") none entries
      <*> optionalField (asOneOf .choiceUnknown ReportFormat.ofWord?) ⟨"output_format", "outputFormat"⟩ .text
        entries
      <*> optionalField asFlag (.plain "strict") false entries
      <*> optionalField asFlag (.plain "verbose") false entries
      <*> optionalField asFlag ⟨"exit_on_error", "exitOnError"⟩ true entries
      <*> optionalField Schema.decodeIgnorePatterns ⟨"ignore_patterns", "ignorePatterns"⟩
        defaultIgnorePatterns entries
      <*> optionalField (asList Rule.decode) ⟨"custom_rules", "customRules"⟩ [] entries
      <*> optionalField (asList SecurityRule.decode) ⟨"security_rules", "securityRules"⟩ [] entries

def toMembers (c : Config) (rule : Rule → Json) : List (String × Json) :=
  [("envFile", .str c.envFile), ("schemaFile", .optional c.schemaFile),
    ("exampleFile", .optional c.exampleFile), ("mode", .orNull Mode.toJson c.mode),
    ("outputFormat", .str c.format.word), ("strict", .bool c.strict), ("verbose", .bool c.verbose),
    ("exitOnError", .bool c.exitOnError),
    ("ignorePatterns", .strings (c.ignorePatterns.map (·.text))),
    ("customRules", .arr (c.customRules.map rule)),
    ("securityRules", .arr (c.securityRules.map SecurityRule.toJson))]

def toDocument (c : Config) : Json :=
  (Json.obj (c.toMembers fun rule => .obj rule.toMembers)).withoutNulls

/-- Options by the names of the fields; null stands for an option that is not given. -/
abbrev Options := List (String × Json)

/-- Further patterns for keys: texts, or the characters of one text. Nothing is given by an empty list or
text, and by zero and the like. -/
def extraPatterns : Json → Except String (List Document)
  | .arr items => .ok (items.map Json.toDocument)
  | .str text => .ok (text.toList.map fun c => .text (String.ofList [c]))
  | .obj members => .ok (members.map fun (name, _) => .text name)
  | .null => .ok []
  | .bool b => if b then .error (Document.bool b).kindName else .ok []
  | .int n => if n == 0 then .ok [] else .error (Document.int n).kindName
  | .float x =>
    if x.toInt? == some 0 then .ok [] else .error (Document.float x).kindName

def overlay (given : Options) (name : String) (current : Json) : Document × Document :=
  (.text name, (((given.lookup name).getD current)).toDocument)

/-- Laid over a configuration, the options that are given take the place of its fields, and further patterns
come behind those that are there. -/
def overlayDocument (c : Config) (given : Options) (extra : List Document) : Document :=
  let patterns := c.ignorePatterns.map fun pattern => Document.text pattern.text
  .map [overlay given "env_file" (.str c.envFile), overlay given "schema_file" (.optional c.schemaFile),
    overlay given "example_file" (.optional c.exampleFile),
    overlay given "mode" (.orNull Mode.toJson c.mode),
    overlay given "output_format" (.str c.format.word), overlay given "strict" (.bool c.strict),
    overlay given "verbose" (.bool c.verbose), overlay given "exit_on_error" (.bool c.exitOnError),
    (.text "ignore_patterns", .list (patterns ++ extra))]

end EnvAudit.Config
