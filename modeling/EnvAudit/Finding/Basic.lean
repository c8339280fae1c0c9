namespace EnvAudit

inductive Severity where
  | error
  | warning
  | info
  deriving DecidableEq, Repr, Inhabited

namespace Severity

def word : Severity → String
  | error => "error"
  | warning => "warning"
  | info => "info"

def all : List Severity := [error, warning, info]

def ofWord? (word : String) : Option Severity := all.find? (·.word == word)

@[simp] theorem ofWord?_word (s : Severity) : ofWord? s.word = some s := by cases s <;> decide

end Severity

inductive FindingKind where
  | missingRequired
  | invalidFormat
  | securityRisk
  | unusedVariable
  | weakPattern
  | deprecated
  | custom
  | info
  | suggestion
  deriving DecidableEq, Repr, Inhabited

namespace FindingKind

def word : FindingKind → String
  | missingRequired => "missing_required"
  | invalidFormat => "invalid_format"
  | securityRisk => "security_risk"
  | unusedVariable => "unused_variable"
  | weakPattern => "weak_pattern"
  | deprecated => "deprecated"
  | custom => "custom"
  | info => "info"
  | suggestion => "suggestion"

def all : List FindingKind :=
  [missingRequired, invalidFormat, securityRisk, unusedVariable, weakPattern, deprecated, custom, info,
    suggestion]

def ofWord? (word : String) : Option FindingKind := all.find? (·.word == word)

@[simp] theorem ofWord?_word (k : FindingKind) : ofWord? k.word = some k := by cases k <;> decide

end FindingKind

structure Finding where
  kind : FindingKind
  variableName : String := ""
  message : String
  line : Option Int := none
  suggestion : Option String := none
  severity : Severity
  deriving DecidableEq, Repr, Inhabited

namespace Finding

/-- What tells findings apart: those that agree in kind, variable and message say the same. -/
def identity (f : Finding) : FindingKind × String × String := (f.kind, f.variableName, f.message)

def distinctFrom (seen : List (FindingKind × String × String)) : List Finding → List Finding
  | [] => []
  | f :: rest =>
    if f.identity ∈ seen then distinctFrom seen rest else f :: distinctFrom (f.identity :: seen) rest

def distinct (findings : List Finding) : List Finding := distinctFrom [] findings

def countOf (kind : FindingKind) (findings : List Finding) : Nat :=
  (findings.filter (·.kind == kind)).length

end Finding

/-- Findings by severity, each list in the order in which the findings were made. -/
structure Findings where
  errors : List Finding := []
  warnings : List Finding := []
  info : List Finding := []
  deriving DecidableEq, Repr, Inhabited

namespace Findings

def toList (f : Findings) : List Finding := f.errors ++ f.warnings ++ f.info

def total (f : Findings) : Nat := f.errors.length + f.warnings.length + f.info.length

def append (f g : Findings) : Findings :=
  ⟨f.errors ++ g.errors, f.warnings ++ g.warnings, f.info ++ g.info⟩

instance : Append Findings := ⟨append⟩

def ofList (findings : List Finding) : Findings where
  errors := findings.filter (·.severity == .error)
  warnings := findings.filter (·.severity == .warning)
  info := findings.filter (·.severity == .info)

def distinct (f : Findings) : Findings :=
  ⟨Finding.distinct f.errors, Finding.distinct f.warnings, Finding.distinct f.info⟩

end Findings

end EnvAudit
