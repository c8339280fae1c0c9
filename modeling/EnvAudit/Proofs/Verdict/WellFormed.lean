import EnvAudit.Proofs.Audit.Order

namespace EnvAudit

namespace Findings

def IsSorted (f : Findings) : Prop := ∀ s, ∀ g ∈ f.bySeverity s, g.severity = s

theorem IsSorted.append {f g : Findings} (hf : f.IsSorted) (hg : g.IsSorted) : (f ++ g).IsSorted := by
  intro s h member
  rw [bySeverity_append] at member
  exact (List.mem_append.mp member).elim (hf s h) (hg s h)

theorem IsSorted.distinct {f : Findings} (hf : f.IsSorted) : f.distinct.IsSorted := by
  intro s h member
  rw [bySeverity_distinct] at member
  exact hf s h ((Finding.distinct_sublist _).subset member)

theorem isSorted_ofList (findings : List Finding) : (ofList findings).IsSorted := by
  intro s h member
  rw [bySeverity_ofList, List.mem_filter] at member
  simpa using member.2

theorem isSorted_of_lists {errors warnings info : List Finding} (hErrors : ∀ f ∈ errors, f.severity = .error)
    (hWarnings : ∀ f ∈ warnings, f.severity = .warning) (hInfo : ∀ f ∈ info, f.severity = .info) :
    IsSorted ⟨errors, warnings, info⟩ := by
  intro s
  cases s with
  | error => exact hErrors
  | warning => exact hWarnings
  | info => exact hInfo

end Findings

theorem Reference.isSorted_findings (reference observed missing extra : List Assignment) :
    (findings reference observed missing extra).IsSorted := by
  refine Findings.isSorted_of_lists (List.forall_mem_map.mpr fun _ _ => rfl) ?_
    (List.forall_mem_map.mpr fun _ _ => rfl)
  intro f member
  rcases List.mem_append.mp member with extra | compared
  · obtain ⟨a, -, rfl⟩ := List.mem_map.mp extra
    rfl
  · obtain ⟨pair, -, found⟩ := List.mem_filterMap.mp compared
    exact (isAbout_compare found).severity

namespace Verdict

structure IsWellFormed (v : Verdict) : Prop where
  isValid : v.isValid = true ↔ v.findings.errors = []
  sorted : v.findings.IsSorted

theorem isWellFormed_ofFindings {f : Findings} (sorted : f.IsSorted) (s : Summary) :
    (ofFindings f s).IsWellFormed :=
  ⟨List.isEmpty_iff, sorted⟩

theorem isWellFormed_ofMalformed (lines : List MalformedLine) (elapsed : Binary64) :
    (ofMalformed lines elapsed).IsWellFormed := by
  have sorted : Findings.IsSorted { errors := lines.map malformedFinding } :=
    Findings.isSorted_of_lists (List.forall_mem_map.mpr fun _ _ => rfl) (List.forall_mem_nil _)
      (List.forall_mem_nil _)
  exact isWellFormed_ofFindings sorted _

theorem IsWellFormed.merge {v w : Verdict} (hv : v.IsWellFormed) (hw : w.IsWellFormed) :
    (v.merge w).IsWellFormed :=
  isWellFormed_ofFindings (hv.sorted.append hw.sorted).distinct _

end Verdict

section
variable [Host]

theorem VariableSpec.severity_of_mem_valueErrors {spec : VariableSpec} {a : Assignment} {f : Finding}
    (h : f ∈ spec.valueErrors a) : f.severity = .error := by
  obtain ⟨complaint, rfl⟩ := spec.eq_formatError_of_mem h
  rfl

theorem VariableSpec.severity_of_mem_deprecationWarnings {spec : VariableSpec} {a : Assignment} {f : Finding}
    (h : f ∈ spec.deprecationWarnings a) : f.severity = .warning := by
  rw [spec.eq_deprecationWarning_of_mem h]
  rfl

theorem Schema.isSorted_findings (schema : Schema) (observed undeclared : List Assignment) :
    (schema.findings observed undeclared).IsSorted := by
  refine Findings.isSorted_of_lists ?_ ?_ (List.forall_mem_nil _)
  · intro f member
    rcases List.mem_append.mp member with missing | value
    · obtain ⟨entry, -, rfl⟩ := List.mem_map.mp missing
      rfl
    · obtain ⟨entry, -, found⟩ := List.mem_flatMap.mp value
      exact VariableSpec.severity_of_mem_valueErrors found
  · intro f member
    rcases List.mem_append.mp member with undeclared | deprecated
    · obtain ⟨a, -, rfl⟩ := List.mem_map.mp undeclared
      rfl
    · obtain ⟨entry, -, found⟩ := List.mem_flatMap.mp deprecated
      exact VariableSpec.severity_of_mem_deprecationWarnings found

theorem Schema.isSorted_allFindings (schema : Schema) (observed undeclared : List Assignment) :
    (schema.allFindings observed undeclared).IsSorted :=
  (schema.isSorted_findings observed undeclared).append (Findings.isSorted_ofList _)

theorem Auditor.isSorted_afterwards (auditor : Auditor) (file : EnvFile) (rules : List SecurityRule) :
    (auditor.afterwards file rules).IsSorted := by
  have noted : Findings.IsSorted { info := repeatedNotes file } :=
    Findings.isSorted_of_lists (List.forall_mem_nil _) (List.forall_mem_nil _)
      (List.forall_mem_map.mpr fun _ _ => rfl)
  exact ((Findings.isSorted_ofList _).append noted).append (Findings.isSorted_ofList _)

namespace Verdict

/-- The verdicts that are made: by comparisons with a schema or with samples, under any patterns; of malformed lines;
by a merge of well-formed verdicts; and by audits. -/
inductive IsMade : Verdict → Prop
  | schema {schema : Schema} {patterns : List String} {as : List Assignment} {v : Verdict}
      (run : schema.audit patterns as = .ok v) : IsMade v
  | samples {samples : List Assignment} {patterns : List String} {as : List Assignment} {v : Verdict}
      (run : Reference.audit samples patterns as = .ok v) : IsMade v
  | malformed (lines : List MalformedLine) (elapsed : Binary64) : IsMade (ofMalformed lines elapsed)
  | merge {v w : Verdict} (first : v.IsWellFormed) (second : w.IsWellFormed) : IsMade (v.merge w)
  | audit {auditor : Auditor} {w : Workspace} {file : EnvFile} {v : Verdict}
      (run : auditor.audit w file = .ok v) : IsMade v

end Verdict

theorem Basis.isWellFormed_verdict (basis : Basis) (ignored : List Pattern) (observed : List Assignment) :
    (basis.verdict ignored observed).IsWellFormed := by
  have schema (s : Schema) : (s.verdict ignored observed).IsWellFormed :=
    Verdict.isWellFormed_ofFindings (s.isSorted_allFindings _ _) _
  have reference (l : List Assignment) : (Reference.verdict l ignored observed).IsWellFormed :=
    Verdict.isWellFormed_ofFindings (Reference.isSorted_findings _ _ _ _) _
  cases basis with
  | schema s => exact schema s
  | samples l => exact reference _
  | both s l => exact (schema s).merge (reference _)

theorem Auditor.isWellFormed_of_audit {auditor : Auditor} {w : Workspace} {file : EnvFile} {v : Verdict}
    (made : auditor.audit w file = .ok v) : v.IsWellFormed := by
  by_cases wellFormed : file.malformed = []
  · obtain ⟨basis, -, rfl⟩ := (auditor.audit_eq_ok w wellFormed).mp made
    have compared := basis.isWellFormed_verdict auditor.config.ignorePatterns
      (Assignment.effective file.assignments)
    exact Verdict.isWellFormed_ofFindings (compared.sorted.append (auditor.isSorted_afterwards file _)) _
  · simp only [audit, List.isEmpty_iff, wellFormed, if_false] at made
    rw [← Except.ok.inj made]
    exact Verdict.isWellFormed_ofMalformed _ _

theorem Verdict.isWellFormed_of_isMade {v : Verdict} (h : v.IsMade) : v.IsWellFormed := by
  cases h with
  | schema run =>
      obtain ⟨undeclared, -, run⟩ := ok_of_bind run
      rw [Rule.applyAll_eq] at run
      obtain ⟨ruled, applied, run⟩ := ok_of_bind run
      obtain ⟨-, -, rfl⟩ := ok_of_map applied
      rw [← Except.ok.inj run]
      exact isWellFormed_ofFindings (Schema.isSorted_allFindings _ _ _) _
  | samples run =>
      obtain ⟨missing, -, run⟩ := ok_of_bind run
      obtain ⟨extra, -, run⟩ := ok_of_bind run
      rw [← Except.ok.inj run]
      exact isWellFormed_ofFindings (Reference.isSorted_findings _ _ _ _) _
  | malformed lines elapsed => exact isWellFormed_ofMalformed lines elapsed
  | merge first second => exact first.merge second
  | audit run => exact Auditor.isWellFormed_of_audit run

end

end EnvAudit
