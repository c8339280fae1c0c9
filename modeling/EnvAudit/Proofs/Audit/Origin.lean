import EnvAudit.Catalogue
import EnvAudit.Proofs.Audit.Order
import EnvAudit.Proofs.Audit.Screening

namespace EnvAudit

section
variable [Host]

/-! ## Rules in a row -/

namespace Rule

theorem found_append (rules more : List Rule) (as : List Assignment) :
    found (rules ++ more) as = found rules as ++ found more as := by
  refine Findings.eq_of_bySeverity fun s => ?_
  simp only [found, Findings.bySeverity_append, Findings.bySeverity_ofList, List.flatMap_append,
    List.filter_append]

theorem countOf_found {kind : FindingKind} (info : kind ≠ .info) (custom : kind ≠ .custom) (rules : List Rule)
    (as : List Assignment) (s : Severity) : Finding.countOf kind ((found rules as).bySeverity s) = 0 := by
  rw [Finding.countOf_eq_length_named, named_found kind info custom, List.length_nil]

/-- A value that fails both the pattern and the check of a rule. -/
structure FailsTwice (rule : Rule) (value : String) : Prop where
  pattern : ∃ p ∈ rule.pattern, p.search value = false
  check : ∃ c ∈ rule.predicate, c value = .ok false

theorem FailsTwice.count {rule : Rule} {value : String} (twice : rule.FailsTwice value) : rule.count value = 2 := by
  obtain ⟨⟨p, hasPattern, unmatched⟩, c, hasCheck, fails⟩ := twice
  rw [Option.mem_def] at hasPattern hasCheck
  simp [Rule.count, hasPattern, hasCheck, unmatched, fails, Except.toOption]

theorem count_le_count_found {rules : List Rule} {rule : Rule} (stands : rule ∈ rules) {as : List Assignment}
    {a : Assignment} (member : a ∈ as) :
    rule.count a.value ≤ ((found rules as).bySeverity rule.severity).count (rule.finding a) := by
  have ofRule : (List.replicate (rule.count a.value) (rule.finding a)).Sublist (rule.foundBy as) := by
    have one := (List.singleton_sublist.mpr member).flatMap
      fun a => List.replicate (rule.count a.value) (rule.finding a)
    rwa [List.flatMap_singleton] at one
  have ofRules : (rule.foundBy as).Sublist (rules.flatMap (foundBy · as)) := by
    have one := (List.singleton_sublist.mpr stands).flatMap (foundBy · as)
    rwa [List.flatMap_singleton] at one
  have severity : (List.replicate (rule.count a.value) (rule.finding a)).filter (·.severity == rule.severity) =
      List.replicate (rule.count a.value) (rule.finding a) :=
    List.filter_replicate_of_pos (beq_self_eq_true _)
  rw [← List.replicate_sublist_iff, found, Findings.bySeverity_ofList, ← severity]
  exact (ofRule.trans ofRules).filter _

end Rule

theorem Security.analyze_perm_rules {rules more : List SecurityRule} (perm : rules.Perm more) (as : List Assignment) :
    (analyze rules as).Perm (analyze more as) := by
  intro s
  rw [bySeverity_analyze, bySeverity_analyze]
  refine List.Perm.flatMap_left as fun a _ => List.Perm.append_right _ ?_
  exact ((perm.append_left builtinRules).filter _).map _

/-! ## Schemas with further rules -/

namespace Schema

def extended (schema : Schema) (rules : List Rule) (securityRules : List SecurityRule) : Schema :=
  { schema with rules := schema.rules ++ rules, securityRules := schema.securityRules ++ securityRules }

theorem securityRules_extended (schema : Schema) (rules : List Rule) (securityRules : List SecurityRule) :
    (schema.extended rules securityRules).securityRules = schema.securityRules ++ securityRules := rfl

section
variable (schema : Schema) (rules : List Rule) (securityRules : List SecurityRule) (ignored : List Pattern)
  (observed : List Assignment)

theorem found_sublist (s : Severity) : ((Rule.found schema.rules observed).bySeverity s).Sublist
    ((schema.verdict ignored observed).findings.bySeverity s) := by
  rw [verdict, Verdict.ofFindings, allFindings, Findings.bySeverity_append]
  exact List.sublist_append_right _ _

theorem findings_extended : ((schema.extended rules securityRules).verdict ignored observed).findings =
    (schema.verdict ignored observed).findings ++ Rule.found rules observed := by
  have own : (schema.verdict ignored observed).findings =
      schema.findings observed (schema.undeclared ignored observed) ++ Rule.found schema.rules observed := rfl
  have all : ((schema.extended rules securityRules).verdict ignored observed).findings =
      schema.findings observed (schema.undeclared ignored observed) ++ Rule.found (schema.rules ++ rules) observed := rfl
  rw [all, own, Rule.found_append, ← Findings.append_assoc]

theorem countOf_extended (kind : FindingKind) (info : kind ≠ .info) (custom : kind ≠ .custom) (s : Severity) :
    Finding.countOf kind (((schema.extended rules securityRules).verdict ignored observed).findings.bySeverity s) =
      Finding.countOf kind ((schema.verdict ignored observed).findings.bySeverity s) := by
  rw [findings_extended, Findings.bySeverity_append, Finding.countOf_append, Rule.countOf_found info custom,
    Nat.add_zero]

theorem summary_extended : ((schema.extended rules securityRules).verdict ignored observed).summary =
    (schema.verdict ignored observed).summary := by
  have missing := schema.countOf_extended rules securityRules ignored observed .missingRequired (by decide) (by decide)
    .error
  have unused := schema.countOf_extended rules securityRules ignored observed .unusedVariable (by decide) (by decide)
    .warning
  have risks := schema.countOf_extended rules securityRules ignored observed .securityRisk (by decide) (by decide)
    .error
  simp only [verdict, Verdict.ofFindings, summary, Summary.mk.injEq, true_and, and_true]
  exact ⟨rfl, congrArg _ missing, congrArg _ unused, congrArg _ risks⟩

end

end Schema

/-! ## Audits -/

namespace Auditor

def adopting (auditor : Auditor) (schema : Schema) (rules : List Rule) (securityRules : List SecurityRule) :
    Auditor :=
  { auditor with
    schema := some schema
    config := { auditor.config with
      customRules := auditor.config.customRules ++ rules
      securityRules := auditor.config.securityRules ++ securityRules } }

section
variable (auditor : Auditor) (file : EnvFile) (schema : Schema) (rules : List Rule)
  (securityRules : List SecurityRule)

theorem mode_adopting (mode : auditor.mode = .schema) :
    (auditor.adopting schema rules securityRules).mode = .schema := by
  unfold Auditor.mode at mode ⊢
  cases chosen : auditor.config.mode with
  | some chosenMode =>
      rw [chosen] at mode
      simp only [adopting, chosen]
      exact mode
  | none =>
      rw [chosen] at mode
      have noSamples : (auditor.samples.isSome || (filled auditor.config.exampleFile).isSome) = false := by
        by_contra given
        rw [Bool.not_eq_false] at given
        simp only [given, Bool.and_true] at mode
        split at mode <;> cases mode
      simp [adopting, chosen, noSamples]

theorem analyze_adopting (own : List SecurityRule) (as : List Assignment) :
    (Security.analyze (auditor.config.securityRules ++ (own ++ securityRules)) as).Perm
      (Security.analyze ((auditor.adopting schema rules securityRules).config.securityRules ++ own) as) := by
  apply Security.analyze_perm_rules
  rw [adopting, List.append_assoc]
  exact List.perm_append_comm.append_left _

theorem securityIssues_adopting (own : List SecurityRule) :
    auditor.securityIssues file (own ++ securityRules) =
      (auditor.adopting schema rules securityRules).securityIssues file own := by
  have risks := auditor.analyze_adopting schema rules securityRules own file.assignments .error
  simp only [Findings.bySeverity] at risks
  rw [securityIssues, securityIssues, risks.length_eq]

theorem afterwards_adopting (own : List SecurityRule) :
    (Rule.found rules file.effective ++ auditor.afterwards file (own ++ securityRules)).Perm
      ((auditor.adopting schema rules securityRules).afterwards file own) := by
  intro s
  have screened := auditor.analyze_adopting schema rules securityRules own file.assignments s
  have custom : (auditor.adopting schema rules securityRules).config.customRules =
      auditor.config.customRules ++ rules := rfl
  simp only [afterwards, custom, Rule.found_append, Findings.bySeverity_append, List.append_assoc]
  refine (List.perm_append_comm_assoc _ _ _).trans (List.Perm.append_left _ (List.Perm.append_left _ ?_))
  exact screened.append_left _

theorem verdict_adopting :
    (auditor.verdict file (.schema (schema.extended rules securityRules))).SameUpToOrder
      ((auditor.adopting schema rules securityRules).verdict file (.schema schema)) := by
  have behind := auditor.afterwards_adopting file schema rules securityRules schema.securityRules
  have issues := auditor.securityIssues_adopting file schema rules securityRules schema.securityRules
  unfold verdict concluded
  apply Verdict.SameUpToOrder.ofFindings
  · simp only [Basis.verdict, Basis.securityRules, Schema.findings_extended, Findings.append_assoc]
    exact Findings.Perm.append (fun _ => .refl _) behind
  · simp only [Basis.verdict, Basis.securityRules, Schema.summary_extended, Schema.securityRules_extended, issues]
    rfl

theorem two_le_count_verdict {rule : Rule} {a : Assignment} (stands : rule ∈ schema.rules) (wins : a ∈ file.effective)
    (twice : rule.FailsTwice a.value) :
    2 ≤ ((auditor.verdict file (.schema schema)).findings.bySeverity rule.severity).count (rule.finding a) := by
  have compared := schema.found_sublist auditor.config.ignorePatterns file.effective rule.severity
  have reported : ((Rule.found schema.rules file.effective).bySeverity rule.severity).Sublist
      ((auditor.verdict file (.schema schema)).findings.bySeverity rule.severity) := by
    rw [verdict, concluded, Verdict.ofFindings, Findings.bySeverity_append]
    exact compared.trans (List.sublist_append_left _ _)
  calc
    2 = rule.count a.value := twice.count.symm
    _ ≤ ((Rule.found schema.rules file.effective).bySeverity rule.severity).count (rule.finding a) :=
        Rule.count_le_count_found stands wins
    _ ≤ _ := reported.count_le _

/-- The same checks are made in another order. -/
theorem answers_adopting (observed : List Assignment) :
    Rule.answers (schema.rules ++ rules ++ auditor.config.customRules) observed = .ok () ↔
      Rule.answers (schema.rules ++ (auditor.adopting schema rules securityRules).config.customRules) observed =
        .ok () := by
  have sameRules (rule : Rule) : rule ∈ schema.rules ++ rules ++ auditor.config.customRules ↔
      rule ∈ schema.rules ++ (auditor.adopting schema rules securityRules).config.customRules := by
    simp [adopting, or_comm, or_left_comm]
  simp only [Rule.answers_eq_ok, sameRules]

end

/-- Rules, of either kind, may be moved from the schema to the configuration: an audit against the schema then counts
the same and finds the same, though perhaps in another order. A rule whose pattern and check both fail is reported twice
in either place. Checks that raise something end both audits. -/
theorem audit_adopting (auditor : Auditor) {w : Workspace} {file : EnvFile} {schema : Schema} {rules : List Rule}
    {securityRules : List SecurityRule} (wellFormed : file.malformed = []) (mode : auditor.mode = .schema)
    (usable : auditor.loadSchema w = .ok (schema.extended rules securityRules)) :
    (∃ v v', auditor.audit w file = .ok v ∧
      (auditor.adopting schema rules securityRules).audit w file = .ok v' ∧ v.SameUpToOrder v' ∧
      ∀ rule ∈ schema.rules ++ rules, ∀ a ∈ file.effective, rule.FailsTwice a.value →
        2 ≤ (v.findings.bySeverity rule.severity).count (rule.finding a) ∧
        2 ≤ (v'.findings.bySeverity rule.severity).count (rule.finding a)) ∨
    ∃ complaint complaint',
      Rule.Complain (schema.rules ++ rules ++ auditor.config.customRules) file.effective complaint ∧
      auditor.audit w file = .error (.raised complaint) ∧
      (auditor.adopting schema rules securityRules).audit w file = .error (.raised complaint') := by
  have audited := auditor.audit_eq w wellFormed
  have audited' := (auditor.adopting schema rules securityRules).audit_eq w wellFormed
  have extended : (schema.extended rules securityRules).rules = schema.rules ++ rules := rfl
  have same := auditor.answers_adopting schema rules securityRules file.effective
  rw [basis_of_schema mode usable, extended] at audited
  rw [basis_of_schema (auditor.mode_adopting schema rules securityRules mode) rfl] at audited'
  obtain answers | ⟨complaint, complains, raises⟩ :=
    Rule.answers_cases (schema.rules ++ rules ++ auditor.config.customRules) file.effective
  · rw [answers] at audited
    rw [same.mp answers] at audited'
    have upToOrder := auditor.verdict_adopting file schema rules securityRules
    refine .inl ⟨_, _, audited, audited', upToOrder, fun rule stands a wins twice => ?_⟩
    have first := auditor.two_le_count_verdict file (schema.extended rules securityRules) stands wins twice
    exact ⟨first, (upToOrder.findings rule.severity).count_eq (rule.finding a) ▸ first⟩
  · -- The other audit ends as well, but a rule that was moved may raise its complaint later.
    have alike := Rule.answers_endsAlike same
    rw [raises] at audited alike
    generalize Rule.answers (schema.rules ++ (auditor.adopting schema rules securityRules).config.customRules)
      file.effective = run at audited' alike
    cases alike with
    | error => exact .inr ⟨complaint, complaint, complains, audited, audited'⟩
    | raised _ complaint' => exact .inr ⟨complaint, complaint', complains, audited, audited'⟩

end Auditor

end

attribute [local instance] Host.shipped in
theorem Auditor.audit_adopting_digits :
    let digits : Rule := { name := "digits", description := "is no number", severity := .warning
                           pattern := some (.ofText "^[0-9]+$"), predicate := some (.ofTest Value.isNumber) }
    let switch : Rule := { name := "switch", description := "is no switch", severity := .error
                           predicate := some (.ofTest Value.isBoolean) }
    let leak : SecurityRule := { name := "hardcoded-password", description := "leaked", severity := .error
                                 pattern := .ofText "PASS" }
    let schema : Schema := { specs := [("PORT", { required := true })], rules := [switch] }
    let auditor : Auditor :=
      { config := { mode := some .schema, customRules := [switch], securityRules := [leak] }
        schema := some (schema.extended [digits] [leak]) }
    let file : EnvFile :=
      { assignments := [{ key := "PASS", value := "old", line := 1 }, { key := "PASS", value := "new", line := 2 }] }
    file.malformed = [] ∧ auditor.mode = .schema ∧
      auditor.loadSchema default = .ok (schema.extended [digits] [leak]) ∧
      ((∃ v v', auditor.audit default file = .ok v ∧
        (auditor.adopting schema [digits] [leak]).audit default file = .ok v' ∧ v.SameUpToOrder v' ∧
        ∀ rule ∈ schema.rules ++ [digits], ∀ a ∈ file.effective, rule.FailsTwice a.value →
          2 ≤ (v.findings.bySeverity rule.severity).count (rule.finding a) ∧
          2 ≤ (v'.findings.bySeverity rule.severity).count (rule.finding a)) ∨
      ∃ complaint complaint',
        Rule.Complain (schema.rules ++ [digits] ++ auditor.config.customRules) file.effective complaint ∧
        auditor.audit default file = .error (.raised complaint) ∧
        (auditor.adopting schema [digits] [leak]).audit default file = .error (.raised complaint')) := by
  intro digits switch leak schema auditor file
  have wellFormed : file.malformed = [] := rfl
  have mode : auditor.mode = .schema := rfl
  have usable : auditor.loadSchema default = .ok (schema.extended [digits] [leak]) := rfl
  clear_value auditor file schema digits leak
  exact ⟨wellFormed, mode, usable, audit_adopting auditor wellFormed mode usable⟩

end EnvAudit
