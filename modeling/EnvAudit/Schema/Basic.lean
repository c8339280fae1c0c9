import EnvAudit.Finding.Basic
import EnvAudit.Pattern
import EnvAudit.Predicate
import EnvAudit.Value.Number
import EnvAudit.Value.Shape
import EnvAudit.Value.Url

namespace EnvAudit

inductive ValueType where
  | string
  | number
  | boolean
  | url
  | email
  | json
  deriving DecidableEq, Repr, Inhabited

namespace ValueType

def word : ValueType → String
  | string => "string"
  | number => "number"
  | boolean => "boolean"
  | url => "url"
  | email => "email"
  | json => "json"

def all : List ValueType := [string, number, boolean, url, email, json]

def ofWord? (word : String) : Option ValueType := all.find? (·.word == word)

@[simp] theorem ofWord?_word (t : ValueType) : ofWord? t.word = some t := by cases t <;> decide

def check? : ValueType → Option ((String → Bool) × String)
  | string => none
  | number => some (Value.isNumber, "a valid number")
  | boolean => some (Value.isBoolean, "true, false, 1, 0, yes, or no")
  | url => some (Value.isUrl, "a valid URL")
  | email => some (Value.isEmail, "a valid email address")
  | json => some (Value.isJson, "valid JSON")

end ValueType

section
variable [Host]

structure VariableSpec where
  required : Bool := false
  type : Option ValueType := none
  pattern : Option Pattern := none
  description : Option String := none
  sample : Option String := none
  allowEmpty : Bool := false
  deprecated : Bool := false
  alternatives : List String := []
  deriving Inhabited

structure Rule where
  name : String
  description : String
  severity : Severity
  pattern : Option Pattern := none
  predicate : Option Check := none
  required : Option Bool := none
  allowEmpty : Option Bool := none
  deriving Inhabited

structure SecurityRule where
  name : String
  description : String
  pattern : Pattern
  severity : Severity
  suggestion : Option String := none
  deriving Inhabited

structure Schema where
  specs : List (String × VariableSpec) := []
  rules : List Rule := []
  securityRules : List SecurityRule := []
  ignorePatterns : List Pattern := []
  deriving Inhabited

namespace Schema

def spec? (schema : Schema) (key : String) : Option VariableSpec := schema.specs.lookup key

def requiredKeys (schema : Schema) : List String :=
  (schema.specs.filter (·.2.required)).map (·.1)

end Schema

end

end EnvAudit
