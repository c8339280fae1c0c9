import EnvAudit.Document.Decode
import EnvAudit.Schema.Basic

namespace EnvAudit

open Checked (misfit)
open Document (Field asText asName asFlag asPattern asList asMap asRecord asOptional asOneOf requiredField
  optionalField)

namespace Json

def orNull {α : Type} (write : α → Json) : Option α → Json
  | some a => write a
  | none => null

mutual

def withoutNulls : Json → Json
  | obj members => obj (membersWithoutNulls members)
  | arr items => arr (itemsWithoutNulls items)
  | other => other

def itemsWithoutNulls : List Json → List Json
  | [] => []
  | item :: items => item.withoutNulls :: itemsWithoutNulls items

def membersWithoutNulls : List (String × Json) → List (String × Json)
  | [] => []
  | (_, .null) :: members => membersWithoutNulls members
  | (name, value) :: members => (name, value.withoutNulls) :: membersWithoutNulls members

end

end Json

variable [Host]

namespace Pattern

def flawMessage (purpose text : String) (error : Error) : String :=
  "invalid " ++ purpose ++ " " ++ Text.quoted text ++ ": " ++ error.message

def checkText (purpose text : String) : Checked Pattern :=
  match compile text with
  | .ok pattern => .ok pattern
  | .error (.flaw kind spot) => misfit (.refused (flawMessage purpose text (.flaw kind spot)))
  | .error .classClash => misfit (.refused Error.classClash.message)
  | .error error => .aborted (.pattern error)

def checkTexts (purpose : String) : List String → Checked (List Pattern)
  | [] => .ok []
  | text :: texts =>
    (checkText purpose text).andThen fun pattern => (checkTexts purpose texts).map (pattern :: ·)

end Pattern

namespace Predicate

def ofRaised {α : Type} : Raised → Checked α
  | .refusal message => misfit (.refused message)
  | .assertion message => misfit (.asserted message)
  | r => .aborted (.raised r)

def decode : Document → Checked Check
  | .text name =>
    match resolve name with
    | .ok check => .ok check
    | .error (.relativeModule name) => .aborted (.relativeModule name)
    | .error (.raised r) => ofRaised r
    | .error fault => misfit (.refused fault.message)
  | _ => misfit .testExpected

end Predicate

namespace VariableSpec

def decodeSample : Document → Checked (Option String)
  | .null => .ok none
  | .text s => .ok (some s)
  | .bool b => .ok (some (if b then "true" else "false"))
  | other =>
    match other.display with
    | .ok s => .ok (some s)
    | .error (.tooLong message) => misfit (.refused message)
    | .error .tooDeep => .aborted (.raised .exhausted)

def decode : Document → Checked VariableSpec :=
  asRecord fun entries =>
    VariableSpec.mk <$> optionalField asFlag (.plain "required") false entries
      <*> optionalField (asOptional (asOneOf .wordUnknown ValueType.ofWord?)) (.plain "type") none entries
      <*> optionalField (asOptional fun d => d.asText.andThen (Pattern.checkText "regex")) (.plain "pattern")
        none entries
      <*> optionalField (asOptional asText) (.plain "description") none entries
      <*> optionalField decodeSample (.plain "example") none entries
      <*> optionalField asFlag ⟨"allow_empty", "allowEmpty"⟩ false entries
      <*> optionalField asFlag (.plain "deprecated") false entries
      <*> optionalField (asList asText) (.plain "alternatives") [] entries

def toMembers (s : VariableSpec) : List (String × Json) :=
  [("required", .bool s.required), ("type", .orNull (fun t => .str t.word) s.type),
    ("pattern", .orNull (fun p => .str p.text) s.pattern), ("description", .optional s.description),
    ("example", .optional s.sample), ("allowEmpty", .bool s.allowEmpty),
    ("deprecated", .bool s.deprecated), ("alternatives", .strings s.alternatives)]

def toJson (s : VariableSpec) : Json := .obj s.toMembers

end VariableSpec

namespace Rule

def decode : Document → Checked Rule :=
  asRecord fun entries =>
    Rule.mk <$> requiredField asName (.plain "name") entries
      <*> requiredField asName (.plain "description") entries
      <*> requiredField (asOneOf .wordUnknown Severity.ofWord?) (.plain "severity") entries
      <*> optionalField (asOptional asPattern) (.plain "pattern") none entries
      <*> optionalField (asOptional Predicate.decode) (.plain "predicate") none entries
      <*> optionalField (asOptional asFlag) (.plain "required") none entries
      <*> optionalField (asOptional asFlag) ⟨"allow_empty", "allowEmpty"⟩ none entries

def toMembers (r : Rule) : List (String × Json) :=
  [("name", .str r.name), ("description", .str r.description), ("severity", .str r.severity.word),
    ("pattern", .orNull (fun p => .str p.text) r.pattern), ("required", .orNull .bool r.required),
    ("allowEmpty", .orNull .bool r.allowEmpty)]

end Rule

namespace SecurityRule

def decode : Document → Checked SecurityRule :=
  asRecord fun entries =>
    SecurityRule.mk <$> requiredField asName (.plain "name") entries
      <*> requiredField asName (.plain "description") entries
      <*> requiredField asPattern (.plain "pattern") entries
      <*> requiredField (asOneOf .wordUnknown Severity.ofWord?) (.plain "severity") entries
      <*> optionalField (asOptional asText) (.plain "suggestion") none entries

def toMembers (r : SecurityRule) : List (String × Json) :=
  [("name", .str r.name), ("description", .str r.description), ("pattern", .str r.pattern.text),
    ("severity", .str r.severity.word), ("suggestion", .optional r.suggestion)]

def toJson (r : SecurityRule) : Json := .obj r.toMembers

end SecurityRule

namespace Schema

def decodeIgnorePatterns (d : Document) : Checked (List Pattern) :=
  (asList asText d).andThen (Pattern.checkTexts "ignore pattern")

def decode : Document → Checked Schema :=
  asRecord fun entries =>
    Schema.mk <$> optionalField (asMap VariableSpec.decode) (.plain "variables") [] entries
      <*> optionalField (asList Rule.decode) (.plain "rules") [] entries
      <*> optionalField (asList SecurityRule.decode) ⟨"security_rules", "securityRules"⟩ [] entries
      <*> optionalField decodeIgnorePatterns ⟨"ignore_patterns", "ignorePatterns"⟩ [] entries

def toMembers (s : Schema) : List (String × Json) :=
  [("variables", .obj (s.specs.map fun (key, spec) => (key, spec.toJson))),
    ("rules", .arr (s.rules.map fun rule => .obj rule.toMembers)),
    ("securityRules", .arr (s.securityRules.map SecurityRule.toJson)),
    ("ignorePatterns", .strings (s.ignorePatterns.map (·.text)))]

def toDocument (s : Schema) : Json := (Json.obj s.toMembers).withoutNulls

end Schema

end EnvAudit
