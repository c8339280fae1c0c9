import EnvAudit.Catalogue
import EnvAudit.Proofs.Audit.Basis
import EnvAudit.Proofs.EnvFile.Winners
import EnvAudit.Proofs.Finding.Reordering

/-!
# The order of lines

If no key is assigned twice, the order of the assignments does not matter to an audit. Each stage finds the same
things in another order. Where two comparisons are merged, the first finding of each identity is kept, and that is
the same one in any order, since the key of a finding leads back to its assignment. Main statement: `audit_perm`.
-/

namespace EnvAudit

namespace Verdict

/-- Verdicts that differ in the order of the findings of each severity only. -/
structure SameUpToOrder (v w : Verdict) : Prop where
  isValid : v.isValid = w.isValid
  summary : v.summary = w.summary
  findings : v.findings.Perm w.findings

theorem SameUpToOrder.refl (v : Verdict) : v.SameUpToOrder v := ⟨rfl, rfl, fun _ => .refl _⟩

theorem SameUpToOrder.ofFindings {f g : Findings} {a b : Summary} (perm : f.Perm g) (same : a = b) :
    (ofFindings f a).SameUpToOrder (ofFindings g b) :=
  ⟨(perm .error).isEmpty_eq, same, perm⟩

end Verdict

theorem Findings.Perm.append {f g f' g' : Findings} (h : f.Perm g) (h' : f'.Perm g') :
    (f ++ f').Perm (g ++ g') := by
  intro s
  rw [bySeverity_append, bySeverity_append]
  exact (h s).append (h' s)

theorem Finding.countOf_perm (kind : FindingKind) {fs gs : List Finding} (h : fs.Perm gs) :
    countOf kind fs = countOf kind gs :=
  (h.filter _).length_eq

theorem Assignment.assigns_perm {as bs : List Assignment} (perm : as.Perm bs) (key : String) :
    assigns as key = assigns bs key := perm.any_eq

theorem Reference.mem_paired {reference observed : List Assignment} {a sample : Assignment} :
    (a, sample) ∈ paired reference observed ↔
      a ∈ observed ∧ Assignment.lookup? reference a.key = some sample := by
  simp [paired]

theorem Reference.compare_eq_some {a sample : Assignment} {f : Finding} (h : compare a sample = some f) :
    f = emptyWarning a sample ∨ ∃ shape, f = shapeWarning a sample shape := by
  unfold compare at h
  split at h
  · cases h
  · split at h
    · exact Or.inl (Option.some.inj h).symm
    · obtain ⟨shape, -, rfl⟩ := Option.map_eq_some_iff.mp h
      exact Or.inr ⟨shape, rfl⟩

theorem Reference.isAbout_compare {a sample : Assignment} {f : Finding} (h : compare a sample = some f) :
    f.IsAbout (fun _ => f.suggestion) .warning a := by
  rcases compare_eq_some h with rfl | ⟨shape, rfl⟩ <;> exact ⟨rfl, rfl, rfl, rfl⟩

namespace Reference
variable {as bs : List Assignment} (distinct : (as.map (·.key)).Nodup) (perm : as.Perm bs)
  (reference : List Assignment)
include distinct perm

theorem comparisons_reordered :
    Finding.Reordered ((paired reference as).filterMap fun (a, sample) => compare a sample)
      ((paired reference bs).filterMap fun (a, sample) => compare a sample) := by
  let hint (a : Assignment) : Option String :=
    (Assignment.lookup? reference a.key).bind fun sample => (compare a sample).bind (·.suggestion)
  apply Finding.Reordered.of_isAbout hint .warning distinct
  · exact (perm.filterMap _).filterMap _
  · intro f member
    obtain ⟨⟨a, sample⟩, pair, found⟩ := List.mem_filterMap.mp member
    obtain ⟨assigned, sampled⟩ := mem_paired.mp pair
    have about := isAbout_compare found
    have hinted : f.suggestion = hint a := by simp [hint, sampled, found]
    exact ⟨a, assigned, about.variableName, about.line, hinted, about.severity⟩

theorem standInNotes_reordered :
    Finding.Reordered (((paired reference as).filter fun (_, sample) => Value.isPlaceholder sample.value).map
        fun (a, sample) => standInNote a sample)
      (((paired reference bs).filter fun (_, sample) => Value.isPlaceholder sample.value).map
        fun (a, sample) => standInNote a sample) := by
  apply Finding.Reordered.of_isAbout (fun _ => none) .info distinct
  · exact ((perm.filterMap _).filter _).map _
  · intro f member
    obtain ⟨⟨a, sample⟩, pair, rfl⟩ := List.mem_map.mp member
    obtain ⟨assigned, -⟩ := mem_paired.mp (List.mem_of_mem_filter pair)
    exact ⟨a, assigned, rfl, rfl, rfl, rfl⟩

end Reference

theorem Auditor.repeatedNotes_of_nodup {file : EnvFile} (distinct : (file.assignments.map (·.key)).Nodup) :
    repeatedNotes file = [] := by
  have none : file.repeatedKeys = [] := by
    rw [List.eq_nil_iff_forall_not_mem]
    intro key again
    have twice := Assignment.mem_repeatedKeys.mp again
    have once := List.nodup_iff_count_le_one.mp distinct key
    omega
  rw [repeatedNotes, none]
  rfl

section
variable [Host]

section
variable {as bs : List Assignment} (perm : as.Perm bs)
include perm

theorem Rule.answers_perm (rules : List Rule) : answers rules as = .ok () ↔ answers rules bs = .ok () := by
  simp only [answers_eq_ok, perm.mem_iff]

theorem Rule.found_perm (rules : List Rule) : (found rules as).Perm (found rules bs) := by
  intro s
  rw [found, found, Findings.bySeverity_ofList, Findings.bySeverity_ofList]
  apply List.Perm.filter
  apply List.Perm.flatMap_left
  intro rule _
  exact perm.flatMap_right _

theorem Security.analyze_perm (rules : List SecurityRule) : (analyze rules as).Perm (analyze rules bs) := by
  intro s
  rw [analyze, analyze, Findings.bySeverity_ofList, Findings.bySeverity_ofList]
  exact (perm.flatMap_right _).filter _

end

theorem Schema.mem_declared {schema : Schema} {observed : List Assignment} {a : Assignment}
    {spec : VariableSpec} :
    (a, spec) ∈ schema.declared observed ↔ a ∈ observed ∧ schema.spec? a.key = some spec := by
  simp [declared]

section
variable {as bs : List Assignment} (distinct : (as.map (·.key)).Nodup) (perm : as.Perm bs)
include distinct perm

theorem Rule.found_reordered (rules : List Rule) (s : Severity) :
    Finding.Reordered ((found rules as).bySeverity s) ((found rules bs).bySeverity s) := by
  apply Finding.Reordered.of_isAbout (fun _ => none) s distinct (found_perm perm rules s)
  intro f member
  obtain ⟨rule, a, assigned, rfl, severity⟩ := exists_of_mem_found member
  exact ⟨a, assigned, rfl, rfl, rfl, severity⟩

theorem Finding.map_unmatched_reordered (ignored : List Pattern) (p : Assignment → Bool)
    {finding : Assignment → Finding} {hint : Assignment → Option String} {severity : Severity}
    (about : ∀ a, (finding a).IsAbout hint severity a) :
    Reordered ((Assignment.unmatched ignored (as.filter p)).map finding)
      ((Assignment.unmatched ignored (bs.filter p)).map finding) := by
  apply Reordered.of_isAbout hint severity distinct
  · exact ((perm.filter _).filter _).map _
  · intro f member
    obtain ⟨a, found, rfl⟩ := List.mem_map.mp member
    exact ⟨a, List.mem_of_mem_filter (List.mem_of_mem_filter found), about a⟩

namespace Schema
variable (schema : Schema) (ignored : List Pattern)

theorem declared_reordered {find : VariableSpec → Assignment → List Finding}
    (hint : VariableSpec → Option String) (severity : Severity)
    (about : ∀ spec a, ∀ f ∈ find spec a, f.IsAbout (fun _ => hint spec) severity a) :
    Finding.Reordered ((schema.declared as).flatMap fun (a, spec) => find spec a)
      ((schema.declared bs).flatMap fun (a, spec) => find spec a) := by
  apply Finding.Reordered.of_isAbout (fun a => (schema.spec? a.key).bind hint) severity distinct
  · exact (perm.filterMap _).flatMap_right _
  · intro f member
    obtain ⟨⟨a, spec⟩, declared, found⟩ := List.mem_flatMap.mp member
    obtain ⟨assigned, known⟩ := mem_declared.mp declared
    have own := about spec a f found
    exact ⟨a, assigned, own.variableName, own.line, by simp [known, own.suggestion], own.severity⟩

theorem valueErrors_reordered :
    Finding.Reordered ((schema.declared as).flatMap fun (a, spec) => spec.valueErrors a)
      ((schema.declared bs).flatMap fun (a, spec) => spec.valueErrors a) := by
  apply schema.declared_reordered distinct perm (·.sampleHint) .error
  intro spec a f found
  obtain ⟨complaint, rfl⟩ := spec.eq_formatError_of_mem found
  exact ⟨rfl, rfl, rfl, rfl⟩

theorem undeclaredWarnings_reordered :
    Finding.Reordered ((schema.undeclared ignored as).map undeclaredWarning)
      ((schema.undeclared ignored bs).map undeclaredWarning) :=
  Finding.map_unmatched_reordered distinct perm _ _ fun _ => ⟨rfl, rfl, rfl, rfl⟩

theorem deprecationWarnings_reordered :
    Finding.Reordered ((schema.declared as).flatMap fun (a, spec) => spec.deprecationWarnings a)
      ((schema.declared bs).flatMap fun (a, spec) => spec.deprecationWarnings a) := by
  apply schema.declared_reordered distinct perm (fun spec => some spec.replacementHint) .warning
  intro spec a f found
  obtain rfl := spec.eq_deprecationWarning_of_mem found
  exact ⟨rfl, rfl, rfl, rfl⟩

theorem verdict_reordered (s : Severity) :
    Finding.Reordered ((schema.verdict ignored as).findings.bySeverity s)
      ((schema.verdict ignored bs).findings.bySeverity s) := by
  have missing : schema.missingErrors as = schema.missingErrors bs := by
    simp only [missingErrors, Assignment.assigns_perm perm]
  have ruled := Rule.found_reordered distinct perm schema.rules s
  simp only [verdict, Verdict.ofFindings, allFindings, findings, Findings.bySeverity_append]
  cases s with
  | error =>
      rw [missing]
      exact ((Finding.Reordered.refl _).append (schema.valueErrors_reordered distinct perm)).append ruled
  | warning =>
      have undeclared := schema.undeclaredWarnings_reordered distinct perm ignored
      exact (undeclared.append (schema.deprecationWarnings_reordered distinct perm)).append ruled
  | info => exact (Finding.Reordered.refl _).append ruled

theorem verdict_perm : (schema.verdict ignored as).SameUpToOrder (schema.verdict ignored bs) := by
  have found : (schema.verdict ignored as).findings.Perm (schema.verdict ignored bs).findings :=
    fun s => (schema.verdict_reordered distinct perm ignored s).perm
  apply Verdict.SameUpToOrder.ofFindings found
  have missing := Finding.countOf_perm .missingRequired (found .error)
  have unused := Finding.countOf_perm .unusedVariable (found .warning)
  have risks := Finding.countOf_perm .securityRisk (found .error)
  simp only [summary, perm.length_eq, Summary.mk.injEq, true_and, and_true]
  exact ⟨congrArg _ missing, congrArg _ unused, congrArg _ risks⟩

end Schema

namespace Reference
variable (reference : List Assignment) (ignored : List Pattern)

theorem extraWarnings_reordered :
    Finding.Reordered ((extra ignored reference as).map extraWarning)
      ((extra ignored reference bs).map extraWarning) :=
  Finding.map_unmatched_reordered distinct perm _ _ fun _ => ⟨rfl, rfl, rfl, rfl⟩

theorem verdict_reordered (s : Severity) :
    Finding.Reordered ((verdict reference ignored as).findings.bySeverity s)
      ((verdict reference ignored bs).findings.bySeverity s) := by
  cases s with
  | error =>
      have missing : missing ignored reference as = missing ignored reference bs := by
        simp only [missing, Assignment.assigns_perm perm]
      have errors : (verdict reference ignored as).findings.errors =
          (verdict reference ignored bs).findings.errors := congrArg (List.map missingError) missing
      simp only [Findings.bySeverity, errors]
      exact .refl _
  | warning =>
      exact (extraWarnings_reordered distinct perm reference ignored).append
        (comparisons_reordered distinct perm reference)
  | info => exact standInNotes_reordered distinct perm reference

theorem verdict_perm : (verdict reference ignored as).SameUpToOrder (verdict reference ignored bs) := by
  have found : (verdict reference ignored as).findings.Perm (verdict reference ignored bs).findings :=
    fun s => (verdict_reordered distinct perm reference ignored s).perm
  apply Verdict.SameUpToOrder.ofFindings found
  have missing := Finding.countOf_perm .missingRequired (found .error)
  have unused := Finding.countOf_perm .unusedVariable (found .warning)
  simp only [summary, perm.length_eq, Summary.mk.injEq, true_and, and_true]
  exact ⟨congrArg _ missing, congrArg _ unused⟩

end Reference

theorem Basis.verdict_perm (basis : Basis) (ignored : List Pattern) :
    (basis.verdict ignored as).SameUpToOrder (basis.verdict ignored bs) := by
  cases basis with
  | schema s => exact s.verdict_perm distinct perm ignored
  | samples l => exact Reference.verdict_perm distinct perm _ ignored
  | both s l =>
      have first := s.verdict_perm distinct perm ignored
      have second := Reference.verdict_perm distinct perm (Assignment.effective l) ignored
      apply Verdict.SameUpToOrder.ofFindings
      · intro severity
        simp only [Findings.bySeverity_distinct, Findings.bySeverity_append]
        exact ((s.verdict_reordered distinct perm ignored severity).append
          (Reference.verdict_reordered distinct perm _ ignored severity)).distinct
      · rw [first.summary, second.summary]

end

/-! ## Audits -/

namespace Auditor

section
variable (auditor : Auditor) (file : EnvFile) {bs : List Assignment}
  (distinct : (file.assignments.map (·.key)).Nodup) (perm : file.assignments.Perm bs)
include distinct perm

theorem afterwards_perm (rules : List SecurityRule) :
    (auditor.afterwards file rules).Perm (auditor.afterwards { file with assignments := bs } rules) := by
  have distinct' : (bs.map (·.key)).Nodup := (perm.map _).nodup_iff.mp distinct
  have notes : repeatedNotes file = [] := repeatedNotes_of_nodup distinct
  have notes' : repeatedNotes { file with assignments := bs } = [] := repeatedNotes_of_nodup distinct'
  simp only [afterwards, EnvFile.effective, Assignment.effective_of_nodup distinct,
    Assignment.effective_of_nodup distinct', notes, notes']
  exact ((Rule.found_perm perm _).append fun _ => .refl _).append (Security.analyze_perm perm _)

theorem verdict_perm (basis : Basis) :
    (auditor.verdict file basis).SameUpToOrder (auditor.verdict { file with assignments := bs } basis) := by
  have distinct' : (bs.map (·.key)).Nodup := (perm.map _).nodup_iff.mp distinct
  have compared := basis.verdict_perm distinct perm auditor.config.ignorePatterns
  have afterwards := auditor.afterwards_perm file distinct perm basis.securityRules
  have issues : auditor.securityIssues file basis.securityRules =
      auditor.securityIssues { file with assignments := bs } basis.securityRules :=
    congrArg _ (Security.analyze_perm perm _ .error).length_eq
  rw [verdict, verdict, Assignment.effective_of_nodup distinct, Assignment.effective_of_nodup distinct',
    concluded, concluded]
  apply Verdict.SameUpToOrder.ofFindings (compared.findings.append afterwards)
  rw [compared.summary, issues]

/-- The order of assignments with distinct keys has no influence on an audit but on the order of its findings, and on
which of the checks that raise something comes first. -/
theorem audit_perm (w : Workspace) :
    EndsAlike Verdict.SameUpToOrder (auditor.audit w file)
      (auditor.audit w { file with assignments := bs }) := by
  by_cases wellFormed : file.malformed = []
  · have distinct' : (bs.map (·.key)).Nodup := (perm.map _).nodup_iff.mp distinct
    have observed : file.effective.Perm ({ file with assignments := bs } : EnvFile).effective := by
      simpa only [EnvFile.effective, Assignment.effective_of_nodup distinct,
        Assignment.effective_of_nodup distinct'] using perm
    rw [auditor.audit_eq w wellFormed, auditor.audit_eq w (show { file with assignments := bs }.malformed = [] from
      wellFormed)]
    apply (auditor.basis_endsAlike w (Rule.answers_perm observed)).map
    rintro basis _ rfl
    exact auditor.verdict_perm file distinct perm basis
  · simp only [audit, List.isEmpty_iff, wellFormed, if_false]
    exact .ok (.refl _)

end

end Auditor

end

attribute [local instance] Host.shipped in
theorem Auditor.audit_perm_swapped :
    let schema : Schema := { specs := [("PORT", { type := some .number })] }
    let samples : List Assignment := [{ key := "HOST", value := "example.org", line := 1 }]
    let auditor : Auditor := { config := { mode := some .both }, schema := some schema, samples := some samples }
    let port : Assignment := { key := "PORT", value := "http", line := 1 }
    let host : Assignment := { key := "HOST", value := "", line := 2 }
    let file : EnvFile := { assignments := [port, host] }
    (file.assignments.map (·.key)).Nodup ∧ file.assignments.Perm [host, port] ∧
      ∃ v v', auditor.audit default file = .ok v ∧
        auditor.audit default { file with assignments := [host, port] } = .ok v' ∧ v.SameUpToOrder v' := by
  intro schema samples auditor port host file
  have distinct : (file.assignments.map (·.key)).Nodup := by simp [file, port, host]
  have perm : file.assignments.Perm [host, port] := .swap host port []
  refine ⟨distinct, perm, ?_⟩
  have outcome := audit_perm auditor file distinct perm default
  have made : auditor.audit default file = .ok (auditor.verdict file (.both schema samples)) :=
    (auditor.audit_eq_ok default rfl).mpr ⟨.both schema samples, rfl, rfl⟩
  rw [made] at outcome
  generalize auditor.verdict file (.both schema samples) = v at made outcome
  generalize second : auditor.audit default { file with assignments := [host, port] } = run at outcome ⊢
  cases outcome with
  | ok related => exact ⟨_, _, made, rfl, related⟩

end EnvAudit
