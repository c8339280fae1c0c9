import EnvAudit.Json.Basic
import EnvAudit.Schema.Basic

namespace EnvAudit

/-- What a file is compared with. Another program may ask for a mode that there is not. -/
inductive Mode where
  | schema
  | example
  | both
  | unsupported (value : Json)
  deriving Repr, Inhabited

namespace Mode

def ofWord? (word : String) : Option Mode :=
  if word == "schema" then some schema
  else if word == "example" then some .example
  else if word == "both" then some both
  else none

def toJson : Mode → Json
  | schema => .str "schema"
  | .example => .str "example"
  | both => .str "both"
  | unsupported value => value

end Mode

inductive ReportFormat where
  | text
  | json
  | junit
  deriving DecidableEq, Repr, Inhabited

namespace ReportFormat

def word : ReportFormat → String
  | text => "text"
  | json => "json"
  | junit => "junit"

def all : List ReportFormat := [text, json, junit]

def ofWord? (word : String) : Option ReportFormat := all.find? (·.word == word)

@[simp] theorem ofWord?_word (f : ReportFormat) : ofWord? f.word = some f := by cases f <;> decide

end ReportFormat

variable [Host]

structure Config where
  envFile : String := ".env"
  schemaFile : Option String := none
  exampleFile : Option String := none
  mode : Option Mode := none
  format : ReportFormat := .text
  strict : Bool := false
  verbose : Bool := false
  exitOnError : Bool := true
  ignorePatterns : List Pattern := []
  customRules : List Rule := []
  securityRules : List SecurityRule := []
  deriving Inhabited

def defaultIgnoreTexts : List String := ["^_.*", ".*_TEST$", ".*_DEBUG$"]

def defaultIgnorePatterns : List Pattern := defaultIgnoreTexts.map .ofText

def Config.default : Config := { ignorePatterns := defaultIgnorePatterns }

end EnvAudit
