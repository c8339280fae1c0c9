import EnvAudit.Catalogue
import EnvAudit.Proofs.Audit.Basis
import EnvAudit.Proofs.EnvFile.Winners

namespace EnvAudit

namespace Finding

section
variable {kind : FindingKind} {fs : List Finding}

theorem countOf_append (kind : FindingKind) (fs gs : List Finding) :
    countOf kind (fs ++ gs) = countOf kind fs + countOf kind gs := by
  simp only [countOf, List.filter_append, List.length_append]

theorem countOf_le_length (kind : FindingKind) (fs : List Finding) : countOf kind fs ≤ fs.length :=
  List.length_filter_le _ _

theorem countOf_eq_length (all : ∀ f ∈ fs, f.kind = kind) : countOf kind fs = fs.length := by
  rw [countOf, List.filter_eq_self.mpr]
  intro f member
  simp [all f member]

theorem countOf_map {α : Type} {finding : α → Finding} (all : ∀ a, (finding a).kind = kind) (as : List α) :
    countOf kind (as.map finding) = as.length := by
  rw [countOf_eq_length, List.length_map]
  intro f member
  obtain ⟨a, -, rfl⟩ := List.mem_map.mp member
  exact all a

theorem countOf_eq_zero (none : ∀ f ∈ fs, f.kind ≠ kind) : countOf kind fs = 0 := by
  rw [countOf, List.length_eq_zero_iff, List.filter_eq_nil_iff]
  intro f member
  simp [none f member]

def named (kind : FindingKind) (fs : List Finding) : List String :=
  (fs.filter (·.kind == kind)).map (·.variableName)

theorem countOf_eq_length_named (kind : FindingKind) (fs : List Finding) :
    countOf kind fs = (named kind fs).length := by
  rw [named, List.length_map, countOf]

theorem named_append (kind : FindingKind) (fs gs : List Finding) :
    named kind (fs ++ gs) = named kind fs ++ named kind gs := by
  rw [named, List.filter_append, List.map_append, named, named]

theorem named_map {α : Type} {finding : α → Finding} (all : ∀ a, (finding a).kind = kind) (as : List α) :
    named kind (as.map finding) = as.map fun a => (finding a).variableName := by
  rw [named, List.filter_eq_self.mpr, List.map_map]
  · rfl
  · intro f member
    obtain ⟨a, -, rfl⟩ := List.mem_map.mp member
    simp [all a]

theorem named_eq_nil (none : ∀ f ∈ fs, f.kind ≠ kind) : named kind fs = [] := by
  rw [named, List.filter_eq_nil_iff.mpr fun f member => by simpa using none f member]
  rfl

end

end Finding

def EnvFile.keys (file : EnvFile) : Finset String := (file.assignments.map (·.key)).toFinset

namespace Assignment

theorem assigns_iff {as : List Assignment} {key : String} : assigns as key = true ↔ key ∈ as.map (·.key) := by
  simp only [assigns, List.any_eq_true, beq_iff_eq, List.mem_map]

theorem decide_mem_keys (as : List Assignment) (key : String) : decide (key ∈ as.map (·.key)) = assigns as key := by
  rw [Bool.eq_iff_iff, decide_eq_true_eq, assigns_iff]

theorem assigns_effective {as : List Assignment} {key : String} :
    assigns (effective as) key = assigns as key := by
  rw [Bool.eq_iff_iff, assigns_iff, assigns_iff, mem_keys_effective]

theorem lookup?_isSome (as : List Assignment) (key : String) : (lookup? as key).isSome = assigns as key := by
  rw [Bool.eq_iff_iff, lookup?_isSome_iff, assigns_iff]

end Assignment

section
variable [Host]

/-! ## The kinds of findings -/

theorem VariableSpec.kind_of_mem_valueErrors {spec : VariableSpec} {a : Assignment} {f : Finding}
    (h : f ∈ spec.valueErrors a) : f.kind = .invalidFormat := by
  obtain ⟨complaint, rfl⟩ := spec.eq_formatError_of_mem h
  rfl

theorem VariableSpec.kind_of_mem_deprecationWarnings {spec : VariableSpec} {a : Assignment} {f : Finding}
    (h : f ∈ spec.deprecationWarnings a) : f.kind = .deprecated := by
  rw [spec.eq_deprecationWarning_of_mem h]
  rfl

namespace Rule

theorem kind_of_mem_found {rules : List Rule} {as : List Assignment} {s : Severity} {f : Finding}
    (h : f ∈ (found rules as).bySeverity s) : f.kind = .info ∨ f.kind = .custom := by
  obtain ⟨rule, a, -, rfl, -⟩ := exists_of_mem_found h
  unfold finding
  split
  · exact Or.inl rfl
  · exact Or.inr rfl

theorem named_found (kind : FindingKind) (info : kind ≠ .info) (custom : kind ≠ .custom)
    (rules : List Rule) (as : List Assignment) (s : Severity) :
    Finding.named kind ((found rules as).bySeverity s) = [] := by
  apply Finding.named_eq_nil
  intro f member
  cases kind_of_mem_found member with
  | inl same => rw [same]; exact info.symm
  | inr same => rw [same]; exact custom.symm

end Rule

namespace Security

theorem kind_of_mem_check {rules : List SecurityRule} {a : Assignment} {f : Finding} (h : f ∈ check rules a) :
    f.kind = .securityRisk ∨ f.kind = .weakPattern ∧ f.severity = .warning ∨
      f.kind = .info ∧ f.severity = .info := by
  cases finds_of_mem_check h with
  | ruled rule =>
      unfold ruleFinding
      split
      · exact Or.inr (Or.inr ⟨rfl, rfl⟩)
      · exact Or.inl rfl
  | weak => exact Or.inl rfl
  | risk message hint => exact Or.inl rfl
  | sign message hint => exact Or.inr (Or.inl ⟨rfl, rfl⟩)
  | noted message => exact Or.inr (Or.inr ⟨rfl, rfl⟩)

theorem kind_of_mem_analyze {rules : List SecurityRule} {as : List Assignment} {s : Severity} {f : Finding}
    (h : f ∈ (analyze rules as).bySeverity s) :
    f.kind = .securityRisk ∨ f.kind = .weakPattern ∧ s = .warning ∨ f.kind = .info ∧ s = .info := by
  obtain ⟨⟨a, -, found⟩, rfl⟩ := mem_analyze.mp h
  exact kind_of_mem_check found

theorem kind_of_mem_errors {rules : List SecurityRule} {as : List Assignment} {f : Finding}
    (h : f ∈ (analyze rules as).errors) : f.kind = .securityRisk := by
  rcases kind_of_mem_analyze (s := .error) h with risk | ⟨-, other⟩ | ⟨-, other⟩
  · exact risk
  · cases other
  · cases other

end Security

/-! ## Comparisons -/

namespace Verdict

structure CountsFindings (v : Verdict) : Prop where
  missing : v.summary.missing = Finding.countOf .missingRequired v.findings.errors
  unused : v.summary.unused = Finding.countOf .unusedVariable v.findings.warnings

end Verdict

namespace Schema

section
variable (schema : Schema) (ignored : List Pattern) (observed : List Assignment)

theorem named_missing (undeclared : List Assignment) :
    Finding.named .missingRequired (schema.allFindings observed undeclared).errors =
      (schema.specs.filter fun (key, spec) => spec.required && !Assignment.assigns observed key).map Prod.fst := by
  have errors : (schema.allFindings observed undeclared).errors = schema.missingErrors observed ++
      ((schema.declared observed).flatMap fun entry => entry.2.valueErrors entry.1) ++
        (Rule.found schema.rules observed).bySeverity .error := rfl
  have values : Finding.named .missingRequired
      ((schema.declared observed).flatMap fun entry => entry.2.valueErrors entry.1) = [] := by
    apply Finding.named_eq_nil
    intro f member
    obtain ⟨entry, -, found⟩ := List.mem_flatMap.mp member
    simp [VariableSpec.kind_of_mem_valueErrors found]
  have ruled := Rule.named_found .missingRequired (by decide) (by decide) schema.rules observed .error
  rw [errors, Finding.named_append, Finding.named_append, values, ruled, List.append_nil, List.append_nil,
    missingErrors, Finding.named_map]
  · rfl
  · exact fun _ => rfl

theorem named_undeclared (undeclared : List Assignment) :
    Finding.named .unusedVariable (schema.allFindings observed undeclared).warnings = undeclared.map (·.key) := by
  have warnings : (schema.allFindings observed undeclared).warnings = undeclared.map undeclaredWarning ++
      ((schema.declared observed).flatMap fun entry => entry.2.deprecationWarnings entry.1) ++
        (Rule.found schema.rules observed).bySeverity .warning := rfl
  have deprecated : Finding.named .unusedVariable
      ((schema.declared observed).flatMap fun entry => entry.2.deprecationWarnings entry.1) = [] := by
    apply Finding.named_eq_nil
    intro f member
    obtain ⟨entry, -, found⟩ := List.mem_flatMap.mp member
    simp [VariableSpec.kind_of_mem_deprecationWarnings found]
  have ruled := Rule.named_found .unusedVariable (by decide) (by decide) schema.rules observed .warning
  rw [warnings, Finding.named_append, Finding.named_append, deprecated, ruled, List.append_nil, List.append_nil,
    Finding.named_map]
  · rfl
  · exact fun _ => rfl

theorem countOf_missing : Finding.countOf .missingRequired (schema.verdict ignored observed).findings.errors =
    schema.specs.countP fun (key, spec) => spec.required && !Assignment.assigns observed key := by
  rw [verdict, Verdict.ofFindings, Finding.countOf_eq_length_named, named_missing, List.countP_eq_length_filter,
    List.length_map]

theorem countOf_unused : Finding.countOf .unusedVariable (schema.verdict ignored observed).findings.warnings =
    (schema.undeclared ignored observed).length := by
  rw [verdict, Verdict.ofFindings, Finding.countOf_eq_length_named, named_undeclared, List.length_map]

theorem missing_le_required : (schema.verdict ignored observed).summary.missing ≤
    (schema.verdict ignored observed).summary.required := by
  have counted : (schema.verdict ignored observed).summary.missing =
      Finding.countOf .missingRequired (schema.verdict ignored observed).findings.errors := rfl
  have required : (schema.verdict ignored observed).summary.required = schema.requiredKeys.length := rfl
  rw [counted, required, schema.countOf_missing, requiredKeys, List.length_map, ← List.countP_eq_length_filter,
    Int.ofNat_le]
  apply List.countP_mono_left
  intro entry _ both
  exact (Bool.and_eq_true_iff.mp both).1

theorem unused_le_length : (schema.verdict ignored observed).summary.unused ≤ observed.length := by
  have counted : (schema.verdict ignored observed).summary.unused =
      Finding.countOf .unusedVariable (schema.verdict ignored observed).findings.warnings := rfl
  rw [counted, schema.countOf_unused, Int.ofNat_le]
  exact (List.length_filter_le _ _).trans (List.length_filter_le _ _)

theorem kind_of_mem_errors {f : Finding} (h : f ∈ (schema.verdict ignored observed).findings.errors) :
    f.kind ∈ [.missingRequired, .invalidFormat, .info, .custom] := by
  rcases List.mem_append.mp h with found | ruled
  · rcases List.mem_append.mp found with missing | value
    · obtain ⟨entry, -, rfl⟩ := List.mem_map.mp missing
      exact List.mem_cons_self
    · obtain ⟨entry, -, found⟩ := List.mem_flatMap.mp value
      simp [VariableSpec.kind_of_mem_valueErrors found]
  · rcases Rule.kind_of_mem_found (s := .error) ruled with kind | kind <;> simp [kind]

end

end Schema

namespace Reference

section
variable (ignored : List Pattern) (reference observed : List Assignment)

theorem countOf_missing :
    Finding.countOf .missingRequired (verdict reference ignored observed).findings.errors =
      (missing ignored reference observed).length := by
  have errors : (verdict reference ignored observed).findings.errors =
      (missing ignored reference observed).map missingError := rfl
  rw [errors, Finding.countOf_map]
  exact fun _ => rfl

theorem missing_le_required : (verdict reference ignored observed).summary.missing ≤
    (verdict reference ignored observed).summary.required := by
  have counted : (verdict reference ignored observed).summary.missing =
      Finding.countOf .missingRequired (verdict reference ignored observed).findings.errors := rfl
  have required : (verdict reference ignored observed).summary.required = reference.length := rfl
  rw [counted, required, countOf_missing, Int.ofNat_le]
  exact (List.length_filter_le _ _).trans (List.length_filter_le _ _)

theorem length_extra_add_paired_le :
    (extra ignored reference observed).length + (paired reference observed).length ≤ observed.length := by
  have extras : (extra ignored reference observed).length ≤
      observed.countP fun a => !Assignment.assigns reference a.key := by
    rw [List.countP_eq_length_filter]
    exact List.length_filter_le _ _
  have pairs : (paired reference observed).length =
      observed.countP fun a => Assignment.assigns reference a.key := by
    rw [paired, List.length_filterMap_eq_countP]
    simp only [Option.isSome_map, Assignment.lookup?_isSome]
  have all := List.length_eq_countP_add_countP (l := observed) fun a => Assignment.assigns reference a.key
  simp only [Bool.not_eq_true, Bool.decide_eq_false] at all
  omega

theorem unused_le_length : (verdict reference ignored observed).summary.unused ≤ observed.length := by
  have counted : (verdict reference ignored observed).summary.unused =
      Finding.countOf .unusedVariable (verdict reference ignored observed).findings.warnings := rfl
  have warnings : (verdict reference ignored observed).findings.warnings =
      (extra ignored reference observed).map extraWarning ++
        (paired reference observed).filterMap fun pair => compare pair.1 pair.2 := rfl
  rw [counted, Int.ofNat_le]
  calc
    Finding.countOf .unusedVariable (verdict reference ignored observed).findings.warnings
      ≤ (verdict reference ignored observed).findings.warnings.length := Finding.countOf_le_length _ _
    _ ≤ (extra ignored reference observed).length + (paired reference observed).length := by
        rw [warnings, List.length_append, List.length_map]
        exact Nat.add_le_add_left (List.length_filterMap_le _ _) _
    _ ≤ observed.length := length_extra_add_paired_le ignored reference observed

theorem kind_of_mem_errors {f : Finding} (h : f ∈ (verdict reference ignored observed).findings.errors) :
    f.kind = .missingRequired := by
  obtain ⟨sample, -, rfl⟩ := List.mem_map.mp h
  rfl

end

end Reference

/-! ## Audits -/

namespace Verdict

/-- What the counts of a verdict on a file mean, whatever the file is compared with. -/
structure Counts (v : Verdict) (file : EnvFile) : Prop where
  assigned : v.summary.assigned = file.keys.card
  securityIssues : v.summary.securityIssues = Finding.countOf .securityRisk v.findings.errors
  missing_le : v.summary.missing ≤ v.summary.required
  unused_le : v.summary.unused ≤ v.summary.assigned

/-- What the counts mean if the file is compared with a schema alone. -/
structure CountsSchema (v : Verdict) (file : EnvFile) (schema : Schema) : Prop extends CountsFindings v where
  required : v.summary.required = schema.specs.countP fun (_, spec) => spec.required
  unassigned : v.summary.missing =
    schema.specs.countP fun (key, spec) => spec.required && decide (key ∉ file.keys)

/-- What the counts mean if the file is compared with samples alone. -/
structure CountsSamples (v : Verdict) (samples : List Assignment) : Prop extends CountsFindings v where
  required : v.summary.required = (samples.map (·.key)).toFinset.card

end Verdict

namespace Basis

section
variable (basis : Basis) (ignored : List Pattern) (observed : List Assignment)

theorem assigned_eq : (basis.verdict ignored observed).summary.assigned = observed.length := by
  cases basis with
  | schema s => rfl
  | samples l => rfl
  | both s l => exact max_self (observed.length : Int)

theorem missing_le : (basis.verdict ignored observed).summary.missing ≤
    (basis.verdict ignored observed).summary.required := by
  cases basis with
  | schema s => exact s.missing_le_required ignored observed
  | samples l => exact Reference.missing_le_required ignored _ observed
  | both s l =>
      exact max_le_max (s.missing_le_required ignored observed) (Reference.missing_le_required ignored _ observed)

theorem unused_le : (basis.verdict ignored observed).summary.unused ≤ observed.length := by
  cases basis with
  | schema s => exact s.unused_le_length ignored observed
  | samples l => exact Reference.unused_le_length ignored _ observed
  | both s l =>
      exact max_le (s.unused_le_length ignored observed) (Reference.unused_le_length ignored _ observed)

theorem countOf_securityRisk :
    Finding.countOf .securityRisk (basis.verdict ignored observed).findings.errors = 0 := by
  apply Finding.countOf_eq_zero
  rintro f member kind
  have schema (s : Schema) : f ∉ (s.verdict ignored observed).findings.errors := fun m => by
    simpa [kind] using s.kind_of_mem_errors ignored observed m
  have reference (l : List Assignment) : f ∉ (Reference.verdict l ignored observed).findings.errors := fun m => by
    simpa [kind] using Reference.kind_of_mem_errors ignored l observed m
  cases basis with
  | schema s => exact schema s member
  | samples l => exact reference _ member
  | both s l =>
      exact (List.mem_append.mp ((Finding.distinct_sublist _).subset member)).elim (schema s) (reference _)

end

end Basis

namespace Auditor

section
variable (auditor : Auditor) (file : EnvFile) (basis : Basis)

theorem kind_of_mem_afterwards {rules : List SecurityRule} {s : Severity} {f : Finding}
    (h : f ∈ (auditor.afterwards file rules).bySeverity s) :
    f.kind ∈ [.info, .custom, .securityRisk, .weakPattern] := by
  simp only [afterwards, Findings.bySeverity_append, List.mem_append] at h
  rcases h with (ruled | noted) | screened
  · cases Rule.kind_of_mem_found ruled with
    | inl kind => simp [kind]
    | inr kind => simp [kind]
  · cases s with
    | error => cases noted
    | warning => cases noted
    | info =>
        obtain ⟨winner, -, rfl⟩ := List.mem_map.mp noted
        exact List.mem_cons_self
  · rcases Security.kind_of_mem_analyze screened with kind | ⟨kind, -⟩ | ⟨kind, -⟩ <;> simp [kind]

theorem countOf_concluded (compared : Verdict × List SecurityRule) (kind : FindingKind)
    (other : kind ∉ [.info, .custom, .securityRisk, .weakPattern]) (s : Severity) :
    Finding.countOf kind ((auditor.concluded file compared).findings.bySeverity s) =
      Finding.countOf kind (compared.1.findings.bySeverity s) := by
  have none : Finding.countOf kind ((auditor.afterwards file compared.2).bySeverity s) = 0 := by
    apply Finding.countOf_eq_zero
    rintro f member rfl
    exact other (auditor.kind_of_mem_afterwards file member)
  rw [concluded, Verdict.ofFindings, Findings.bySeverity_append, Finding.countOf_append, none, Nat.add_zero]

theorem countOf_securityRisk :
    (auditor.verdict file basis).summary.securityIssues =
      Finding.countOf .securityRisk (auditor.verdict file basis).findings.errors := by
  have compared : Finding.countOf .securityRisk
      (basis.verdict auditor.config.ignorePatterns (Assignment.effective file.assignments)).findings.errors = 0 :=
    basis.countOf_securityRisk _ _
  have ruled : Finding.countOf .securityRisk
      ((Rule.found auditor.config.customRules file.effective).bySeverity .error) = 0 := by
    rw [Finding.countOf_eq_length_named, Rule.named_found .securityRisk nofun nofun, List.length_nil]
  have screened (rules : List SecurityRule) : Finding.countOf .securityRisk
      ((Security.analyze rules file.assignments).bySeverity .error) =
        ((Security.analyze rules file.assignments).bySeverity .error).length :=
    Finding.countOf_eq_length fun _ => Security.kind_of_mem_errors
  have errors : (auditor.verdict file basis).findings.errors =
      (basis.verdict auditor.config.ignorePatterns (Assignment.effective file.assignments)).findings.errors ++
        ((Rule.found auditor.config.customRules file.effective).bySeverity .error ++ [] ++
          (Security.analyze (auditor.config.securityRules ++ basis.securityRules) file.assignments).bySeverity
            .error) := rfl
  rw [errors, List.append_nil, Finding.countOf_append, Finding.countOf_append, compared, ruled, screened,
    Nat.zero_add, Nat.zero_add]
  rfl

theorem verdict_counts : (auditor.verdict file basis).Counts file := by
  have assigned : (auditor.verdict file basis).summary.assigned = file.keys.card := by
    rw [EnvFile.keys, ← Assignment.length_effective]
    exact basis.assigned_eq _ _
  constructor
  case assigned => exact assigned
  case securityIssues => exact auditor.countOf_securityRisk file basis
  case missing_le => exact basis.missing_le _ _
  case unused_le =>
    rw [assigned, EnvFile.keys, ← Assignment.length_effective]
    exact basis.unused_le _ _

theorem countsFindings_concluded {compared : Verdict × List SecurityRule} (counts : compared.1.CountsFindings) :
    (auditor.concluded file compared).CountsFindings := by
  constructor
  · have kept := auditor.countOf_concluded file compared .missingRequired (by decide) .error
    exact counts.missing.trans (congrArg _ kept.symm)
  · have kept := auditor.countOf_concluded file compared .unusedVariable (by decide) .warning
    exact counts.unused.trans (congrArg _ kept.symm)

theorem verdict_countsSchema (schema : Schema) :
    (auditor.verdict file (.schema schema)).CountsSchema file schema := by
  constructor
  case toCountsFindings => exact auditor.countsFindings_concluded file ⟨rfl, rfl⟩
  case required =>
    have required : (auditor.verdict file (.schema schema)).summary.required = schema.requiredKeys.length := rfl
    rw [required, Schema.requiredKeys, List.length_map, ← List.countP_eq_length_filter]
  case unassigned =>
    have missing : (auditor.verdict file (.schema schema)).summary.missing =
        Finding.countOf .missingRequired (schema.verdict auditor.config.ignorePatterns
          (Assignment.effective file.assignments)).findings.errors := rfl
    rw [missing, schema.countOf_missing]
    congr 2
    funext (key, spec)
    simp only [Assignment.assigns_effective, EnvFile.keys, List.mem_toFinset, ← Assignment.assigns_iff,
      Bool.not_eq_true, Bool.decide_eq_false]

theorem verdict_countsSamples (samples : List Assignment) :
    (auditor.verdict file (.samples samples)).CountsSamples samples := by
  constructor
  case toCountsFindings => exact auditor.countsFindings_concluded file ⟨rfl, rfl⟩
  case required =>
    have required : (auditor.verdict file (.samples samples)).summary.required =
        (Assignment.effective samples).length := rfl
    rw [required, Assignment.length_effective]

end

/-- The counts of an audit agree with its findings, with the file and with what the file is compared with. -/
theorem audit_counts (auditor : Auditor) (w : Workspace) (file : EnvFile) (v : Verdict)
    (wellFormed : file.malformed = []) (made : auditor.audit w file = .ok v) :
    v.Counts file ∧
      (auditor.mode = .schema → ∃ schema, auditor.loadSchema w = .ok schema ∧ v.CountsSchema file schema) ∧
      (auditor.mode = .example → ∃ samples, auditor.loadSamples w = .ok samples ∧ v.CountsSamples samples) := by
  obtain ⟨basis, found, rfl⟩ := (auditor.audit_eq_ok w wellFormed).mp made
  refine ⟨auditor.verdict_counts file basis, fun mode => ?_, fun mode => ?_⟩
  · obtain ⟨schema, loaded, -, rfl⟩ := (grounds_of_schema mode).mp (basis_eq_ok.mp found).1
    exact ⟨schema, loaded, auditor.verdict_countsSchema file schema⟩
  · obtain ⟨samples, loaded, rfl⟩ := (grounds_of_example mode).mp (basis_eq_ok.mp found).1
    exact ⟨samples, loaded, auditor.verdict_countsSamples file samples⟩

end Auditor

end

attribute [local instance] Host.shipped in
theorem Auditor.audit_counts_repeated :
    let schema : Schema := { specs := [("PORT", { required := true }), ("HOST", { required := true })] }
    let auditor : Auditor := { config := { mode := some .schema }, schema := some schema }
    let file : EnvFile :=
      { assignments := [{ key := "PORT", value := "80", line := 1 }, { key := "OLD_HOST", value := "", line := 2 },
          { key := "PORT", value := "81", line := 3 }] }
    file.malformed = [] ∧ ∃ v, auditor.audit default file = .ok v ∧ v.Counts file ∧
      (auditor.mode = .schema → ∃ s, auditor.loadSchema default = .ok s ∧ v.CountsSchema file s) ∧
      (auditor.mode = .example → ∃ l, auditor.loadSamples default = .ok l ∧ v.CountsSamples l) := by
  intro schema auditor file
  have made : auditor.audit default file = .ok (auditor.verdict file (.schema schema)) :=
    (auditor.audit_eq_ok default rfl).mpr ⟨.schema schema, rfl, rfl⟩
  exact ⟨rfl, _, made, audit_counts auditor default file _ rfl made⟩

end EnvAudit
