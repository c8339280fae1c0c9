import EnvAudit.EnvFile.Basic
import EnvAudit.Schema.Basic

namespace EnvAudit.Rule

variable [Host]

def failures (rule : Rule) (value : String) : Except Complaint Nat := do
  let mismatches := if rule.pattern.any (!·.search value) then 1 else 0
  match rule.predicate with
  | none => return mismatches
  | some check => return mismatches + (if ← check value then 0 else 1)

def finding (rule : Rule) (a : Assignment) : Finding where
  kind := if rule.severity == .info then .info else .custom
  variableName := a.key
  message := rule.description
  line := some a.line
  severity := rule.severity

def findings (rule : Rule) : List Assignment → Except Complaint (List Finding)
  | [] => .ok []
  | a :: assignments => do
    let found := List.replicate (← rule.failures a.value) (rule.finding a)
    return found ++ (← rule.findings assignments)

def allFindings (assignments : List Assignment) : List Rule → Except Complaint (List Finding)
  | [] => .ok []
  | rule :: rules => do
    let found ← rule.findings assignments
    return found ++ (← allFindings assignments rules)

def applyAll (rules : List Rule) (assignments : List Assignment) : Except Complaint Findings :=
  (allFindings assignments rules).map .ofList

end EnvAudit.Rule
