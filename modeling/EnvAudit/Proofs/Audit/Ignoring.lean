import EnvAudit.Catalogue
import EnvAudit.Proofs.Audit.Counts
import EnvAudit.Proofs.Audit.Order
import EnvAudit.Proofs.Verdict.Merging

namespace EnvAudit

/-! ## Complaints that can be waived -/

namespace Finding

def isUnsupplied (f : Finding) : Bool :=
  f.kind == .missingRequired &&
    f.message == "Variable '" ++ f.variableName ++ "' is present in example but missing from .env file"

def isUnknown (f : Finding) : Bool :=
  f.kind == .unusedVariable &&
    (f.message == "Variable '" ++ f.variableName ++ "' is not defined in schema" ||
      f.message == "Variable '" ++ f.variableName ++ "' is not present in .env.example")

def isWaivable : Severity → Finding → Bool
  | .error => isUnsupplied
  | .warning => isUnknown
  | .info => fun _ => false

theorem isWaivable_eq_false_of_kind {s : Severity} {f : Finding} (missing : f.kind ≠ .missingRequired)
    (unused : f.kind ≠ .unusedVariable) : f.isWaivable s = false := by
  cases s with
  | error => simp [isWaivable, isUnsupplied, missing]
  | warning => simp [isWaivable, isUnknown, unused]
  | info => rfl

end Finding

def Findings.Unwaivable (f : Findings) : Prop := ∀ s, ∀ g ∈ f.bySeverity s, g.isWaivable s = false

theorem Schema.isUnknown_undeclaredWarning (a : Assignment) : (undeclaredWarning a).isUnknown = true := by
  simp [undeclaredWarning, Finding.isUnknown]

namespace Reference
variable (reference observed : List Assignment)

theorem isUnsupplied_missingError (sample : Assignment) : (missingError sample).isUnsupplied = true := by
  simp [missingError, Finding.isUnsupplied]

theorem isUnknown_extraWarning (a : Assignment) : (extraWarning a).isUnknown = true := by
  simp [extraWarning, Finding.isUnknown]

theorem isUnknown_emptyWarning (a sample : Assignment) : (emptyWarning a sample).isUnknown = false := by
  have undeclared : "Variable '" ++ a.key ++ "' is empty but has a value in example" ≠
      "Variable '" ++ a.key ++ "' is not defined in schema" := by
    rw [Ne, String.append_right_inj]
    decide
  have extra : "Variable '" ++ a.key ++ "' is empty but has a value in example" ≠
      "Variable '" ++ a.key ++ "' is not present in .env.example" := by
    rw [Ne, String.append_right_inj]
    decide
  simp [emptyWarning, Finding.isUnknown, undeclared, extra]

theorem findings_eq_append (missing extra : List Assignment) : findings reference observed missing extra =
    { errors := missing.map missingError, warnings := extra.map extraWarning } ++
      findings reference observed [] [] := by
  refine Findings.eq_of_bySeverity fun s => ?_
  cases s with
  | error => exact (List.append_nil _).symm
  | warning => rfl
  | info => rfl

theorem unwaivable_findings : (findings reference observed [] []).Unwaivable := by
  intro s f member
  cases s with
  | error => cases member
  | warning =>
      obtain ⟨⟨a, sample⟩, -, compared⟩ := List.mem_filterMap.mp member
      rcases compare_eq_some compared with rfl | ⟨shape, rfl⟩
      · exact isUnknown_emptyWarning a sample
      · exact Finding.isWaivable_eq_false_of_kind nofun nofun
  | info => rfl

end Reference

/-- The counts after some complaints were waived, in place of the counts before. -/
structure Summary.Spares (a b : Summary) : Prop where
  assigned : b.assigned = a.assigned
  required : b.required = a.required
  missing_le : b.missing ≤ a.missing
  unused_le : b.unused ≤ a.unused
  elapsed : b.elapsed = a.elapsed

theorem Summary.Spares.merge {a b a' b' : Summary} (first : a.Spares b) (second : a'.Spares b') :
    (a.merge a').Spares (b.merge b') where
  assigned := congrArg₂ max first.assigned second.assigned
  required := congrArg₂ max first.required second.required
  missing_le := max_le_max first.missing_le second.missing_le
  unused_le := max_le_max first.unused_le second.unused_le
  elapsed := congrArg₂ Binary64.max first.elapsed second.elapsed

section
variable [Host]

namespace Finding

def isWaived (patterns : List Pattern) (s : Severity) (f : Finding) : Bool :=
  f.isWaivable s && patterns.any (·.search f.variableName)

theorem isWaived_congr (patterns : List Pattern) (s : Severity) {f g : Finding} (same : f.identity = g.identity) :
    f.isWaived patterns s = g.isWaived patterns s := by
  obtain ⟨kind, variableName, message⟩ : f.kind = g.kind ∧ f.variableName = g.variableName ∧
      f.message = g.message := by simpa [identity] using same
  cases s <;> simp only [isWaived, isWaivable, isUnsupplied, isUnknown, kind, variableName, message]

end Finding

namespace Findings

/-- Findings without the complaints that are waived since their key matches one of some patterns. -/
def waiving (patterns : List Pattern) (f : Findings) : Findings where
  errors := f.errors.filter fun g => !(g.isUnsupplied && patterns.any (·.search g.variableName))
  warnings := f.warnings.filter fun g => !(g.isUnknown && patterns.any (·.search g.variableName))
  info := f.info

section
variable (patterns : List Pattern) (f g : Findings)

theorem bySeverity_waiving (s : Severity) :
    (f.waiving patterns).bySeverity s = (f.bySeverity s).filter fun g => !g.isWaived patterns s := by
  cases s with
  | error => rfl
  | warning => rfl
  | info => exact (List.filter_eq_self.mpr fun _ _ => rfl).symm

theorem waiving_append : (f ++ g).waiving patterns = f.waiving patterns ++ g.waiving patterns := by
  refine eq_of_bySeverity fun s => ?_
  simp only [bySeverity_waiving, bySeverity_append, List.filter_append]

theorem waiving_distinct : f.distinct.waiving patterns = (f.waiving patterns).distinct := by
  refine eq_of_bySeverity fun s => ?_
  rw [bySeverity_waiving, bySeverity_distinct, bySeverity_distinct, bySeverity_waiving, Finding.distinct,
    Finding.distinct, Finding.distinctFrom_filter]
  intro g h same
  rw [Finding.isWaived_congr patterns s same]

theorem Unwaivable.waiving {f : Findings} (unwaivable : f.Unwaivable) : f.waiving patterns = f := by
  refine eq_of_bySeverity fun s => ?_
  rw [bySeverity_waiving, List.filter_eq_self]
  intro g member
  simp [Finding.isWaived, unwaivable s g member]

end

end Findings

theorem Assignment.unmatched_append (ignored more : List Pattern) (as : List Assignment) :
    unmatched (ignored ++ more) as = (unmatched ignored as).filter fun a => !more.any (·.search a.key) := by
  rw [unmatched, unmatched, List.filter_filter]
  refine List.filter_congr fun a _ => ?_
  rw [List.any_append, Bool.not_or, Bool.and_comm]

theorem Assignment.unmatched_congr {ignored ignored' : List Pattern} (same : ∀ p, p ∈ ignored ↔ p ∈ ignored')
    (as : List Assignment) : unmatched ignored as = unmatched ignored' as := by
  rw [unmatched, unmatched]
  refine List.filter_congr fun a _ => congrArg _ ?_
  rw [Bool.eq_iff_iff, List.any_eq_true, List.any_eq_true]
  simp only [same]

theorem Rule.unwaivable_found (rules : List Rule) (as : List Assignment) : (found rules as).Unwaivable := by
  intro s f member
  rcases kind_of_mem_found member with kind | kind <;>
    exact Finding.isWaivable_eq_false_of_kind (by simp [kind]) (by simp [kind])

/-! ## Counts -/

theorem Finding.countOf_waiving_le (kind : FindingKind) (patterns : List Pattern) (f : Findings) (s : Severity) :
    countOf kind ((f.waiving patterns).bySeverity s) ≤ countOf kind (f.bySeverity s) := by
  rw [Findings.bySeverity_waiving]
  exact (List.filter_sublist.filter _).length_le

theorem Verdict.CountsFindings.spares {patterns : List Pattern} {v w : Verdict} (before : v.CountsFindings)
    (after : w.CountsFindings) (waived : w.findings = v.findings.waiving patterns)
    (assigned : w.summary.assigned = v.summary.assigned) (required : w.summary.required = v.summary.required)
    (elapsed : w.summary.elapsed = v.summary.elapsed) : v.summary.Spares w.summary := by
  refine ⟨assigned, required, ?_, ?_, elapsed⟩
  · rw [before.missing, after.missing, waived]
    exact Int.ofNat_le.mpr (Finding.countOf_waiving_le .missingRequired patterns v.findings .error)
  · rw [before.unused, after.unused, waived]
    exact Int.ofNat_le.mpr (Finding.countOf_waiving_le .unusedVariable patterns v.findings .warning)

/-! ## Comparison with a schema -/

namespace Schema

variable (schema : Schema) (observed undeclared : List Assignment)

theorem isUnsupplied_missingError (key : String) (spec : VariableSpec) :
    (missingError key spec).isUnsupplied = false := by
  have other : "Required environment variable '" ++ key ++ "' is missing" ≠
      "Variable '" ++ key ++ "' is present in example but missing from .env file" := by
    intro same
    have first := congrArg (fun text : String => text.toList.head?) same
    simp at first
  simp [missingError, Finding.isUnsupplied, other]

theorem findings_eq_append : schema.findings observed undeclared =
    { warnings := undeclared.map undeclaredWarning } ++ schema.findings observed [] := by
  refine Findings.eq_of_bySeverity fun s => ?_
  cases s with
  | error => rfl
  | warning => rfl
  | info => rfl

theorem unwaivable_findings : (schema.findings observed []).Unwaivable := by
  intro s f member
  cases s with
  | error =>
      rcases List.mem_append.mp member with missing | value
      · obtain ⟨⟨key, spec⟩, -, rfl⟩ := List.mem_map.mp missing
        exact isUnsupplied_missingError key spec
      · obtain ⟨⟨a, spec⟩, -, invalid⟩ := List.mem_flatMap.mp value
        have kind := VariableSpec.kind_of_mem_valueErrors invalid
        exact Finding.isWaivable_eq_false_of_kind (by simp [kind]) (by simp [kind])
  | warning =>
      obtain ⟨⟨a, spec⟩, -, deprecated⟩ := List.mem_flatMap.mp member
      have kind := VariableSpec.kind_of_mem_deprecationWarnings deprecated
      exact Finding.isWaivable_eq_false_of_kind (by simp [kind]) (by simp [kind])
  | info => cases member

theorem findings_ignoring (ignored more : List Pattern) :
    (schema.verdict (ignored ++ more) observed).findings = (schema.verdict ignored observed).findings.waiving more := by
  have left : schema.undeclared (ignored ++ more) observed =
      (schema.undeclared ignored observed).filter fun a => !more.any (·.search a.key) := by
    rw [Schema.undeclared, Schema.undeclared, ← List.append_assoc, Assignment.unmatched_append]
  have complaints (as : List Assignment) :
      ({ warnings := as.map undeclaredWarning } : Findings).waiving more =
        { warnings := (as.filter fun a => !more.any (·.search a.key)).map undeclaredWarning } := by
    simp only [Findings.waiving, List.filter_nil, List.filter_map, Function.comp_def, isUnknown_undeclaredWarning,
      Bool.true_and]
    rfl
  simp only [verdict, allFindings, Verdict.ofFindings]
  rw [findings_eq_append, left, schema.findings_eq_append _ (schema.undeclared ignored observed),
    Findings.waiving_append, Findings.waiving_append, complaints, (schema.unwaivable_findings observed).waiving,
    (Rule.unwaivable_found schema.rules observed).waiving]

theorem summary_ignoring (ignored more : List Pattern) :
    (schema.verdict ignored observed).summary.Spares (schema.verdict (ignored ++ more) observed).summary :=
  Verdict.CountsFindings.spares ⟨rfl, rfl⟩ ⟨rfl, rfl⟩ (schema.findings_ignoring observed ignored more) rfl rfl rfl

end Schema

/-! ## Comparison with samples -/

namespace Reference

variable (reference observed : List Assignment)

theorem findings_ignoring (ignored more : List Pattern) :
    (verdict reference (ignored ++ more) observed).findings =
      (verdict reference ignored observed).findings.waiving more := by
  have complaints (samples as : List Assignment) :
      ({ errors := samples.map missingError, warnings := as.map extraWarning } : Findings).waiving more =
        { errors := (samples.filter fun a => !more.any (·.search a.key)).map missingError
          warnings := (as.filter fun a => !more.any (·.search a.key)).map extraWarning } := by
    simp only [Findings.waiving, List.filter_map, Function.comp_def, isUnsupplied_missingError,
      isUnknown_extraWarning, Bool.true_and]
    rfl
  simp only [verdict, Verdict.ofFindings]
  rw [findings_eq_append, missing, extra, Assignment.unmatched_append, Assignment.unmatched_append, ← missing,
    ← extra, findings_eq_append _ _ (missing ignored reference observed), Findings.waiving_append, complaints,
    (unwaivable_findings reference observed).waiving]

theorem summary_ignoring (ignored more : List Pattern) :
    (verdict reference ignored observed).summary.Spares (verdict reference (ignored ++ more) observed).summary :=
  Verdict.CountsFindings.spares ⟨rfl, rfl⟩ ⟨rfl, rfl⟩ (findings_ignoring reference observed ignored more) rfl rfl rfl

end Reference

/-! ## Verdicts -/

/-- A verdict in place of another one from which the complaints about keys that match a pattern were waived. -/
structure Verdict.Spares (patterns : List Pattern) (v w : Verdict) : Prop where
  findings : w.findings = v.findings.waiving patterns
  stillRequired : ∀ key spec, Schema.missingError key spec ∈ v.findings.errors →
    Schema.missingError key spec ∈ w.findings.errors
  summary : v.summary.Spares w.summary
  securityIssues : w.summary.securityIssues = v.summary.securityIssues
  isValid : v.isValid = true → w.isValid = true

namespace Basis

section
variable (basis : Basis) (observed : List Assignment)

theorem findings_ignoring (ignored more : List Pattern) :
    (basis.verdict (ignored ++ more) observed).findings = (basis.verdict ignored observed).findings.waiving more := by
  cases basis with
  | schema schema => exact schema.findings_ignoring observed ignored more
  | samples samples => exact Reference.findings_ignoring _ observed ignored more
  | both schema samples =>
      simp only [verdict, Verdict.merge, Verdict.ofFindings]
      rw [schema.findings_ignoring, Reference.findings_ignoring, Findings.waiving_distinct, Findings.waiving_append]

theorem summary_ignoring (ignored more : List Pattern) :
    (basis.verdict ignored observed).summary.Spares (basis.verdict (ignored ++ more) observed).summary := by
  cases basis with
  | schema schema => exact schema.summary_ignoring observed ignored more
  | samples samples => exact Reference.summary_ignoring _ observed ignored more
  | both schema samples =>
      exact (schema.summary_ignoring observed ignored more).merge (Reference.summary_ignoring _ observed ignored more)

theorem verdict_congr {ignored ignored' : List Pattern} (same : ∀ p, p ∈ ignored ↔ p ∈ ignored') :
    basis.verdict ignored observed = basis.verdict ignored' observed := by
  have bySchema (schema : Schema) : schema.verdict ignored observed = schema.verdict ignored' observed := by
    have all : ∀ p, p ∈ schema.ignorePatterns ++ ignored ↔ p ∈ schema.ignorePatterns ++ ignored' := fun p => by
      rw [List.mem_append, same, List.mem_append]
    simp only [Schema.verdict, Schema.allFindings, Schema.undeclared, Assignment.unmatched_congr all]
  have bySamples (samples : List Assignment) :
      Reference.verdict samples ignored observed = Reference.verdict samples ignored' observed := by
    simp only [Reference.verdict, Reference.missing, Reference.extra, Assignment.unmatched_congr same]
  cases basis with
  | schema schema => exact bySchema schema
  | samples samples => exact bySamples _
  | both schema samples => rw [verdict, bySchema, bySamples, verdict]

end

end Basis

/-! ## Audits -/

namespace Auditor

def ignoring (auditor : Auditor) (patterns : List Pattern) : Auditor :=
  { auditor with config := { auditor.config with ignorePatterns := patterns } }

section
variable (auditor : Auditor) (patterns : List Pattern) (file : EnvFile)

theorem basis_ignoring (w : Workspace) (observed : List Assignment) :
    (auditor.ignoring patterns).basis w observed = auditor.basis w observed := by
  cases auditor
  rfl

theorem verdict_ignoring (basis : Basis) : (auditor.ignoring patterns).verdict file basis =
    auditor.concluded file (basis.verdict patterns (Assignment.effective file.assignments), basis.securityRules) := rfl

theorem unwaivable_afterwards (rules : List SecurityRule) : (auditor.afterwards file rules).Unwaivable := by
  intro s f member
  have kind := auditor.kind_of_mem_afterwards file member
  apply Finding.isWaivable_eq_false_of_kind <;> (rintro same; simp [same] at kind)

theorem verdict_spares (more : List Pattern) (basis : Basis) :
    (auditor.verdict file basis).Spares more
      ((auditor.ignoring (auditor.config.ignorePatterns ++ more)).verdict file basis) := by
  have findings : ((auditor.ignoring (auditor.config.ignorePatterns ++ more)).verdict file basis).findings =
      (auditor.verdict file basis).findings.waiving more := by
    rw [verdict_ignoring]
    simp only [verdict, concluded, Verdict.ofFindings]
    rw [basis.findings_ignoring, Findings.waiving_append, (auditor.unwaivable_afterwards file _).waiving]
  constructor
  case findings => exact findings
  case stillRequired =>
    intro key spec reported
    rw [findings]
    refine List.mem_filter.mpr ⟨reported, ?_⟩
    rw [Schema.isUnsupplied_missingError]
    rfl
  case summary =>
    have compared := basis.summary_ignoring (Assignment.effective file.assignments) auditor.config.ignorePatterns more
    exact ⟨compared.assigned, compared.required, compared.missing_le, compared.unused_le, compared.elapsed⟩
  case securityIssues => rfl
  case isValid =>
    intro valid
    have before : (auditor.verdict file basis).findings.errors = [] := List.isEmpty_iff.mp valid
    have after := congrArg Findings.errors findings
    rw [Findings.waiving, before, List.filter_nil] at after
    exact List.isEmpty_iff.mpr after

end

/-- Further patterns of ignored keys waive complaints about the keys that match, and have no influence otherwise. The
order and the repetition of patterns do not matter. -/
theorem audit_ignoring (auditor : Auditor) (w : Workspace) {file : EnvFile} (wellFormed : file.malformed = [])
    (more : List Pattern) :
    SameOutcome (Verdict.Spares more) (auditor.audit w file)
        ((auditor.ignoring (auditor.config.ignorePatterns ++ more)).audit w file) ∧
      ∀ patterns patterns' : List Pattern, (∀ p, p ∈ patterns ↔ p ∈ patterns') →
        (auditor.ignoring patterns).audit w file = (auditor.ignoring patterns').audit w file := by
  constructor
  · rw [audit_eq _ w wellFormed, audit_eq _ w wellFormed, basis_ignoring]
    exact SameOutcome.map fun basis _ => auditor.verdict_spares file more basis
  · intro patterns patterns' same
    rw [audit_eq _ w wellFormed, audit_eq _ w wellFormed, basis_ignoring, basis_ignoring]
    have verdicts : (auditor.ignoring patterns).verdict file = (auditor.ignoring patterns').verdict file := by
      funext basis
      rw [verdict_ignoring, verdict_ignoring, basis.verdict_congr _ same]
    rw [verdicts]

end Auditor

end

attribute [local instance] Host.shipped in
theorem Auditor.audit_ignoring_old :
    let schema : Schema :=
      { specs := [("PORT", {}), ("KEY", { required := true })], ignorePatterns := [.ofText "^APP_"] }
    let samples : List Assignment :=
      [{ key := "PORT", value := "80", line := 1 }, { key := "TOKEN", value := "", line := 2 }]
    let auditor : Auditor := { config := { mode := some .both }, schema := some schema, samples := some samples }
    let file : EnvFile :=
      { assignments := [{ key := "PORT", value := "", line := 1 }, { key := "OLD_HOST", value := "a", line := 2 }] }
    let more : List Pattern := [.ofText "OLD", .ofText "^(KEY|PORT|TOKEN)$"]
    file.malformed = [] ∧ ∃ v v', auditor.audit default file = .ok v ∧
      (auditor.ignoring more).audit default file = .ok v' ∧ v.Spares more v' ∧
      ∀ patterns patterns' : List Pattern, (∀ p, p ∈ patterns ↔ p ∈ patterns') →
        (auditor.ignoring patterns).audit default file = (auditor.ignoring patterns').audit default file := by
  intro schema samples auditor file more
  have wellFormed : file.malformed = [] := rfl
  have own : auditor.config.ignorePatterns = [] := rfl
  have usable : auditor.basis default file.effective = .ok (.both schema samples) := rfl
  clear_value auditor file more schema samples
  obtain ⟨outcome, irrelevant⟩ := audit_ignoring auditor default wellFormed more
  rw [own, List.nil_append, audit_eq _ _ wellFormed, audit_eq _ _ wellFormed, basis_ignoring, usable] at outcome
  cases outcome with
  | ok spares =>
      refine ⟨wellFormed, _, _, (auditor.audit_eq_ok _ wellFormed).mpr ⟨_, usable, rfl⟩, ?_, spares, irrelevant⟩
      exact (audit_eq_ok _ _ wellFormed).mpr ⟨_, (auditor.basis_ignoring more default _).trans usable, rfl⟩

end EnvAudit
