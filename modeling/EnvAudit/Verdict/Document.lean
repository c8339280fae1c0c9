import EnvAudit.Document.Decode
import EnvAudit.Json.Basic
import EnvAudit.Verdict.Basic

namespace EnvAudit

open Document (Field asText asWhole asFlag asNumber asList asRecord asOptional asOneOf requiredField
  optionalField)

namespace Assignment

def toJson (a : Assignment) : Json :=
  .obj [("key", .str a.key), ("value", .str a.value), ("lineNumber", .int a.line),
    ("isQuoted", .bool a.isQuoted), ("hasComment", .optional a.comment)]

def decode : Document → Checked Assignment :=
  asRecord fun entries =>
    Assignment.mk <$> requiredField asText (.plain "key") entries
      <*> requiredField asText (.plain "value") entries
      <*> requiredField asWhole ⟨"line_number", "lineNumber"⟩ entries
      <*> optionalField asFlag ⟨"is_quoted", "isQuoted"⟩ false entries
      <*> optionalField (asOptional asText) ⟨"comment", "hasComment"⟩ none entries

end Assignment

namespace Finding

def lineJson : Option Int → Json
  | some n => .int n
  | none => .null

def toJson (f : Finding) : Json :=
  .obj [("type", .str f.kind.word), ("variable", .str f.variableName), ("message", .str f.message),
    ("lineNumber", lineJson f.line), ("suggestion", .optional f.suggestion),
    ("severity", .str f.severity.word)]

def decode : Document → Checked Finding :=
  asRecord fun entries =>
    Finding.mk <$> requiredField (asOneOf .wordUnknown FindingKind.ofWord?) (.plain "type") entries
      <*> optionalField asText (.plain "variable") "" entries
      <*> requiredField asText (.plain "message") entries
      <*> optionalField (asOptional asWhole) ⟨"line_number", "lineNumber"⟩ none entries
      <*> optionalField (asOptional asText) (.plain "suggestion") none entries
      <*> requiredField (asOneOf .wordUnknown Severity.ofWord?) (.plain "severity") entries

end Finding

namespace Summary

def toJson (s : Summary) (elapsed : Option Json) : Json :=
  .obj ([("totalVariables", .int s.assigned), ("requiredVariables", .int s.required),
    ("missingVariables", .int s.missing), ("unusedVariables", .int s.unused),
    ("securityIssues", .int s.securityIssues)] ++
    match elapsed with
    | some time => [("validationTime", time)]
    | none => [])

def decode : Document → Checked Summary :=
  asRecord fun entries =>
    Summary.mk <$> optionalField asWhole ⟨"total_variables", "totalVariables"⟩ 0 entries
      <*> optionalField asWhole ⟨"required_variables", "requiredVariables"⟩ 0 entries
      <*> optionalField asWhole ⟨"missing_variables", "missingVariables"⟩ 0 entries
      <*> optionalField asWhole ⟨"unused_variables", "unusedVariables"⟩ 0 entries
      <*> optionalField asWhole ⟨"security_issues", "securityIssues"⟩ 0 entries
      <*> optionalField asNumber ⟨"validation_time", "validationTime"⟩ .zero entries

end Summary

namespace Findings

def toMembers (f : Findings) : List (String × Json) :=
  [("errors", .arr (f.errors.map Finding.toJson)), ("warnings", .arr (f.warnings.map Finding.toJson)),
    ("info", .arr (f.info.map Finding.toJson))]

def decodeFields (entries : List (Document × Document)) : Checked Findings :=
  Findings.mk <$> optionalField (asList Finding.decode) (.plain "errors") [] entries
    <*> optionalField (asList Finding.decode) (.plain "warnings") [] entries
    <*> optionalField (asList Finding.decode) (.plain "info") [] entries

end Findings

namespace Verdict

def toMembers (v : Verdict) (elapsed : Option Json) : List (String × Json) :=
  ("isValid", .bool v.isValid) :: v.findings.toMembers ++ [("summary", v.summary.toJson elapsed)]

def decode : Document → Checked Verdict :=
  asRecord fun entries =>
    Verdict.mk <$> requiredField asFlag ⟨"is_valid", "isValid"⟩ entries
      <*> Findings.decodeFields entries
      <*> optionalField Summary.decode (.plain "summary") {} entries

end Verdict

end EnvAudit
