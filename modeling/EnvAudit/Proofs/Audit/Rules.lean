import EnvAudit.Audit.Rules
import EnvAudit.Failure
import EnvAudit.Proofs.Failure
import EnvAudit.Proofs.Finding.Severities

/-!
# What rules find

A check may raise something, and the first one that does ends the audit (`answers`). What is found otherwise does not
depend on the order of the checks (`found`). Main statements: `applyAll_eq` and `answers_eq_ok`.
-/

namespace EnvAudit.Rule

def failure? : Except Complaint Bool → Option Complaint
  | .error complaint => some complaint
  | .ok _ => none

variable [Host]

def count (rule : Rule) (value : String) : Nat :=
  (if rule.pattern.any (!·.search value) then 1 else 0) +
    (if rule.predicate.any fun check => (check value).toOption == some false then 1 else 0)

def foundBy (rule : Rule) (as : List Assignment) : List Finding :=
  as.flatMap fun a => List.replicate (rule.count a.value) (rule.finding a)

def found (rules : List Rule) (as : List Assignment) : Findings := .ofList (rules.flatMap (foundBy · as))

def complaint? (rule : Rule) (value : String) : Option Complaint :=
  rule.predicate.bind fun check => failure? (check value)

def firstComplaint? (rules : List Rule) (as : List Assignment) : Option Complaint :=
  rules.findSome? fun rule => as.findSome? fun a => rule.complaint? a.value

/-- The checks of all rules, made one after the other. -/
def answers (rules : List Rule) (as : List Assignment) : Except Failure Unit :=
  (firstComplaint? rules as).elim (.ok ()) fun complaint => .error (.raised complaint)

def Answers (rule : Rule) (value : String) : Prop := ∀ check ∈ rule.predicate, ∃ holds, check value = .ok holds

def Complain (rules : List Rule) (as : List Assignment) (complaint : Complaint) : Prop :=
  ∃ rule ∈ rules, ∃ a ∈ as, ∃ check ∈ rule.predicate, check a.value = .error complaint

variable {rule : Rule} {rules more : List Rule} {as : List Assignment} {value : String}

theorem failures_eq : rule.failures value = (rule.complaint? value).elim (.ok (rule.count value)) .error := by
  unfold failures complaint? count
  cases rule.predicate with
  | none => rfl
  | some check => cases answer : check value with
    | error complaint => simp [answer, bind, Except.bind, failure?]
    | ok holds => cases holds <;> simp [answer, bind, Except.bind, pure, Except.pure, failure?, Except.toOption]

theorem findings_eq : rule.findings as =
    (as.findSome? fun a => rule.complaint? a.value).elim (.ok (rule.foundBy as)) .error := by
  induction as with
  | nil => rfl
  | cons a as ih =>
      rw [findings, failures_eq, ih, List.findSome?_cons]
      cases rule.complaint? a.value with
      | some complaint => rfl
      | none =>
          cases as.findSome? fun a => rule.complaint? a.value with
          | some complaint => rfl
          | none => rfl

theorem allFindings_eq :
    allFindings as rules = (firstComplaint? rules as).elim (.ok (rules.flatMap (foundBy · as))) .error := by
  induction rules with
  | nil => rfl
  | cons rule rules ih =>
      rw [allFindings, findings_eq, ih, firstComplaint?, firstComplaint?, List.findSome?_cons]
      cases as.findSome? fun a => rule.complaint? a.value with
      | some complaint => rfl
      | none =>
          cases rules.findSome? fun rule => as.findSome? fun a => rule.complaint? a.value with
          | some complaint => rfl
          | none => rfl

theorem applyAll_eq : (applyAll rules as).mapError .raised = (answers rules as).map fun _ => found rules as := by
  rw [applyAll, allFindings_eq, answers]
  cases firstComplaint? rules as <;> rfl

theorem applyAll_eq_ok {fs : Findings} :
    applyAll rules as = .ok fs ↔ answers rules as = .ok () ∧ fs = found rules as := by
  rw [applyAll, allFindings_eq, answers]
  cases firstComplaint? rules as <;> simp [found, Except.map, eq_comm]

theorem complaint?_eq_none : rule.complaint? value = none ↔ rule.Answers value := by
  unfold complaint? Answers
  cases rule.predicate with
  | none => simp
  | some check => cases answer : check value <;> simp [answer, failure?]

theorem answers_eq_ok : answers rules as = .ok () ↔ ∀ rule ∈ rules, ∀ a ∈ as, rule.Answers a.value := by
  rw [answers]
  cases first : firstComplaint? rules as with
  | none => simpa [firstComplaint?, complaint?_eq_none] using first
  | some complaint =>
      have raised : ¬ ∀ rule ∈ rules, ∀ a ∈ as, rule.Answers a.value := by
        simp only [← complaint?_eq_none, ← List.findSome?_eq_none_iff]
        intro all
        rw [firstComplaint?, all] at first
        cases first
      simpa using raised

theorem answers_cases (rules : List Rule) (as : List Assignment) : answers rules as = .ok () ∨
    ∃ complaint, Complain rules as complaint ∧ answers rules as = .error (.raised complaint) := by
  rw [answers]
  cases first : firstComplaint? rules as with
  | none => exact .inl rfl
  | some complaint =>
      obtain ⟨rule, member, found⟩ := List.exists_of_findSome?_eq_some first
      obtain ⟨a, assigned, found⟩ := List.exists_of_findSome?_eq_some found
      obtain ⟨check, chosen, found⟩ := Option.bind_eq_some_iff.mp found
      refine .inr ⟨complaint, ⟨rule, member, a, assigned, check, chosen, ?_⟩, rfl⟩
      cases answer : check a.value <;> simp_all [failure?]

theorem answers_endsAlike {bs : List Assignment} {others : List Rule}
    (same : answers rules as = .ok () ↔ answers others bs = .ok ()) :
    EndsAlike (· = ·) (answers rules as) (answers others bs) := by
  revert same
  unfold answers
  cases firstComplaint? rules as with
  | none =>
      cases firstComplaint? others bs with
      | none => exact fun _ => .ok rfl
      | some second => simp
  | some first =>
      cases firstComplaint? others bs with
      | none => simp
      | some second => exact fun _ => .raised first second

theorem answers_append : answers (rules ++ more) as = (answers rules as).bind fun _ => answers more as := by
  rw [answers, answers, firstComplaint?, List.findSome?_append]
  cases first : rules.findSome? fun rule => as.findSome? fun a => rule.complaint? a.value <;>
    simp [firstComplaint?, first, answers, Except.bind]

theorem exists_of_mem_found {s : Severity} {f : Finding} (h : f ∈ (found rules as).bySeverity s) :
    ∃ rule : Rule, ∃ a ∈ as, f = rule.finding a ∧ rule.severity = s := by
  rw [found, Findings.bySeverity_ofList, List.mem_filter] at h
  obtain ⟨rule, -, found⟩ := List.mem_flatMap.mp h.1
  obtain ⟨a, member, found⟩ := List.mem_flatMap.mp found
  obtain rfl := List.eq_of_mem_replicate found
  exact ⟨rule, a, member, rfl, by simpa [finding] using h.2⟩

end EnvAudit.Rule
