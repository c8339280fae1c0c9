import EnvAudit.Catalogue
import EnvAudit.Proofs.Audit.Basis

namespace EnvAudit

namespace Verdict

/-- A verdict that reports what two others report together. -/
structure Joins (joined schema reference : Verdict) : Prop where
  reports : ∀ severity identity, identity ∈ joined.findings.identities severity ↔
    identity ∈ schema.findings.identities severity ∨ identity ∈ reference.findings.identities severity
  isValid : joined.isValid = (schema.isValid && reference.isValid)
  passes : ∀ strict, joined.passes strict = (schema.passes strict && reference.passes strict)
  assigned : joined.summary.assigned = max schema.summary.assigned reference.summary.assigned
  required : joined.summary.required = max schema.summary.required reference.summary.required
  missing : joined.summary.missing = max schema.summary.missing reference.summary.missing
  unused : joined.summary.unused = max schema.summary.unused reference.summary.unused
  securityIssues : joined.summary.securityIssues = schema.summary.securityIssues

section
variable {f g h : Findings}
  (reports : ∀ severity identity, identity ∈ f.identities severity ↔
    identity ∈ g.identities severity ∨ identity ∈ h.identities severity)
include reports

theorem isEmpty_bySeverity (severity : Severity) :
    (f.bySeverity severity).isEmpty =
      ((g.bySeverity severity).isEmpty && (h.bySeverity severity).isEmpty) := by
  rw [Bool.eq_iff_iff, Bool.and_eq_true, List.isEmpty_iff, List.isEmpty_iff, List.isEmpty_iff,
    Findings.bySeverity_eq_nil_iff, Findings.bySeverity_eq_nil_iff, Findings.bySeverity_eq_nil_iff]
  simp only [reports, not_or, forall_and]

theorem isValid_ofFindings (a b c : Summary) :
    (ofFindings f a).isValid = ((ofFindings g b).isValid && (ofFindings h c).isValid) :=
  isEmpty_bySeverity reports .error

theorem passes_ofFindings (a b c : Summary) (strict : Bool) :
    (ofFindings f a).passes strict =
      ((ofFindings g b).passes strict && (ofFindings h c).passes strict) := by
  have warnings : f.warnings.isEmpty = (g.warnings.isEmpty && h.warnings.isEmpty) :=
    isEmpty_bySeverity reports .warning
  simp only [passes, isValid_ofFindings reports a b c]
  simp only [ofFindings, warnings]
  cases strict <;> simp [Bool.and_assoc, Bool.and_left_comm]

end

end Verdict

section
variable [Host]

namespace Auditor

def withMode (auditor : Auditor) (mode : Mode) : Auditor :=
  { auditor with config := { auditor.config with mode := some mode } }

section
variable (auditor : Auditor) {w : Workspace} {file : EnvFile} {schema : Schema} {v u : Verdict}

theorem afterwards_mono {rules more : List SecurityRule} (h : rules ⊆ more) {severity : Severity}
    {identity : FindingKind × String × String}
    (found : identity ∈ (auditor.afterwards file rules).identities severity) :
    identity ∈ (auditor.afterwards file more).identities severity := by
  rw [afterwards, Findings.mem_identities_append] at found ⊢
  refine found.imp_right fun screened => ?_
  obtain ⟨f, member, same⟩ := List.mem_map.mp screened
  refine List.mem_map.mpr ⟨f, Security.analyze_mono ?_ member, same⟩
  exact List.append_subset.mpr ⟨List.subset_append_left _ _, List.subset_append_of_subset_right _ h⟩

theorem concluded_merge (rules : List SecurityRule) :
    (auditor.concluded file (v.merge u, rules)).Joins (auditor.concluded file (v, rules))
      (auditor.concluded file (u, [])) := by
  unfold concluded
  have reports : ∀ severity identity,
      identity ∈ ((v.merge u).findings ++ auditor.afterwards file rules).identities severity ↔
        identity ∈ (v.findings ++ auditor.afterwards file rules).identities severity ∨
          identity ∈ (u.findings ++ auditor.afterwards file []).identities severity := by
    intro severity identity
    have fewer : identity ∈ (auditor.afterwards file []).identities severity →
        identity ∈ (auditor.afterwards file rules).identities severity :=
      auditor.afterwards_mono (List.nil_subset rules)
    simp only [Verdict.merge, Verdict.ofFindings, Findings.mem_identities_append,
      Findings.mem_identities_distinct]
    generalize auditor.afterwards file rules = screened at fewer ⊢
    generalize auditor.afterwards file [] = screenedLess at fewer ⊢
    tauto
  generalize auditor.afterwards file rules = screened at reports ⊢
  generalize auditor.afterwards file [] = screenedLess at reports ⊢
  exact
    { reports
      isValid := Verdict.isValid_ofFindings reports _ _ _
      passes := Verdict.passes_ofFindings reports _ _ _
      assigned := rfl
      required := rfl
      missing := rfl
      unused := rfl
      securityIssues := rfl }

/-- The audit against schema and reference together reports what the audits against each report, unless a check raises
something, which then ends the audit against the schema, too. -/
theorem audit_both (wellFormed : file.malformed = []) (both : auditor.mode = .both)
    (usableSchema : auditor.loadSchema w = .ok schema) {samples : List Assignment}
    (usableSamples : auditor.loadSamples w = .ok samples) :
    (∃ joined first second, auditor.audit w file = .ok joined ∧
      (auditor.withMode .schema).audit w file = .ok first ∧
      (auditor.withMode .example).audit w file = .ok second ∧ joined.Joins first second) ∨
    ∃ complaint, Rule.Complain (schema.rules ++ auditor.config.customRules) file.effective complaint ∧
      auditor.audit w file = .error (.raised complaint) ∧
      (auditor.withMode .schema).audit w file = .error (.raised complaint) := by
  have schemaMode : (auditor.withMode .schema).mode = .schema := rfl
  have exampleMode : (auditor.withMode .example).mode = .example := rfl
  have joined := auditor.audit_eq w wellFormed
  have first := (auditor.withMode .schema).audit_eq w wellFormed
  have second := (auditor.withMode .example).audit_eq w wellFormed
  rw [basis_of_both both usableSchema usableSamples] at joined
  rw [basis_of_schema schemaMode usableSchema] at first
  rw [basis_of_example exampleMode usableSamples] at second
  simp only [withMode] at first second
  obtain answers | ⟨complaint, complains, raises⟩ :=
    Rule.answers_cases (schema.rules ++ auditor.config.customRules) file.effective
  · have fewer : Rule.answers auditor.config.customRules file.effective = .ok () :=
      Rule.answers_eq_ok.mpr fun rule member =>
        Rule.answers_eq_ok.mp answers rule (List.mem_append_right _ member)
    rw [answers] at joined first
    rw [fewer] at second
    exact .inl ⟨_, _, _, joined, first, second, auditor.concluded_merge schema.securityRules⟩
  · rw [raises] at joined first
    exact .inr ⟨complaint, complains, joined, first⟩

end

end Auditor

end

attribute [local instance] Host.shipped in
theorem Auditor.audit_both_host :
    let schema : Schema := { specs := [("PORT", { required := true })] }
    let samples : List Assignment := [{ key := "HOST", value := "localhost", line := 1 }]
    let auditor : Auditor := { config := { mode := some .both }, schema := some schema, samples := some samples }
    let file : EnvFile := { assignments := [{ key := "PORT", value := "80", line := 1 }] }
    file.malformed = [] ∧ auditor.mode = .both ∧ auditor.loadSchema default = .ok schema ∧
      auditor.loadSamples default = .ok samples ∧
      ((∃ joined first second, auditor.audit default file = .ok joined ∧
        (auditor.withMode .schema).audit default file = .ok first ∧
        (auditor.withMode .example).audit default file = .ok second ∧ joined.Joins first second) ∨
      ∃ complaint, Rule.Complain (schema.rules ++ auditor.config.customRules) file.effective complaint ∧
        auditor.audit default file = .error (.raised complaint) ∧
        (auditor.withMode .schema).audit default file = .error (.raised complaint)) := by
  intro schema samples auditor file
  have usableSchema : auditor.loadSchema default = .ok schema := rfl
  have usableSamples : auditor.loadSamples default = .ok samples := rfl
  exact ⟨rfl, rfl, usableSchema, usableSamples, audit_both auditor rfl rfl usableSchema usableSamples⟩

end EnvAudit
