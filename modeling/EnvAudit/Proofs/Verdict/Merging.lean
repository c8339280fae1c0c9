import EnvAudit.Verdict.Basic
import EnvAudit.Proofs.Binary64.Order
import EnvAudit.Proofs.Finding.Reordering

/-!
# Merged verdicts

A merge keeps of the findings of two verdicts the first one of each identity. Which finding is the first does not depend on
how often repeated findings are dropped on the way, so merging is associative; the other verdict first, a merge
reports the same identities and the same counts. Elapsed times count as numbers here: a time that is none is neither
above nor below another, and which one is kept would hang on the grouping. Main statement: `merge_laws`.
-/

namespace EnvAudit

namespace Finding

/-! ## Dropping repeated findings again -/

theorem distinctFrom_congr {seen seen' : List (FindingKind × String × String)} {fs : List Finding}
    (same : ∀ f ∈ fs, (f.identity ∈ seen ↔ f.identity ∈ seen')) : distinctFrom seen fs = distinctFrom seen' fs := by
  induction fs generalizing seen seen' with
  | nil => rfl
  | cons f fs ih =>
      rw [List.forall_mem_cons] at same
      have more : ∀ g ∈ fs, (g.identity ∈ f.identity :: seen ↔ g.identity ∈ f.identity :: seen') := fun g member => by
        rw [List.mem_cons, List.mem_cons, same.2 g member]
      rw [distinctFrom, distinctFrom, ih same.2, ih more]
      simp only [same.1]

theorem distinctFrom_append (seen : List (FindingKind × String × String)) (fs gs : List Finding) :
    distinctFrom seen (fs ++ gs) = distinctFrom seen fs ++ distinctFrom (fs.map identity ++ seen) gs := by
  induction fs generalizing seen with
  | nil => rfl
  | cons f fs ih =>
      rw [List.cons_append, distinctFrom, distinctFrom]
      split
      · rename_i known
        rw [ih]
        refine congrArg _ (distinctFrom_congr fun g _ => ?_)
        rw [List.map_cons, List.cons_append, List.mem_cons, or_iff_right_of_imp]
        exact fun same => List.mem_append_right _ (same ▸ known)
      · rw [ih, List.cons_append]
        refine congrArg _ (congrArg _ (distinctFrom_congr fun g _ => ?_))
        simp only [List.map_cons, List.cons_append, List.mem_append, List.mem_cons, or_left_comm]

/-- Whether a finding is sorted out may be decided before or after repeated findings are dropped, if findings of one
identity share the decision. -/
theorem distinctFrom_filter {p : Finding → Bool} (congr : ∀ f g : Finding, f.identity = g.identity → p f = p g)
    (seen : List (FindingKind × String × String)) (fs : List Finding) :
    distinctFrom seen (fs.filter p) = (distinctFrom seen fs).filter p := by
  induction fs generalizing seen with
  | nil => rfl
  | cons f fs ih =>
      by_cases stays : p f = true
      · rw [List.filter_cons_of_pos stays, distinctFrom, distinctFrom]
        split
        · exact ih seen
        · rw [List.filter_cons_of_pos stays, ih]
      · rw [List.filter_cons_of_neg stays, distinctFrom]
        split
        · exact ih seen
        · rw [List.filter_cons_of_neg stays, ← ih]
          refine distinctFrom_congr fun g member => ?_
          have other : g.identity ≠ f.identity := fun same =>
            stays ((congr g f same) ▸ (List.mem_filter.mp member).2)
          rw [List.mem_cons, or_iff_right other]

theorem distinctFrom_distinctFrom {seen seen' : List (FindingKind × String × String)} (subset : seen' ⊆ seen)
    (fs : List Finding) : distinctFrom seen (distinctFrom seen' fs) = distinctFrom seen fs := by
  induction fs generalizing seen seen' with
  | nil => rfl
  | cons f fs ih =>
      by_cases early : f.identity ∈ seen'
      · rw [distinctFrom, if_pos early, ih subset, distinctFrom, if_pos (subset early)]
      · rw [distinctFrom, if_neg early, distinctFrom, distinctFrom]
        split
        · rename_i known
          exact ih (List.cons_subset.mpr ⟨known, subset⟩)
        · rw [ih (List.cons_subset_cons _ subset)]

theorem distinct_append_distinct (fs gs : List Finding) : distinct (fs ++ distinct gs) = distinct (fs ++ gs) := by
  simp only [distinct, distinctFrom_append]
  rw [distinctFrom_distinctFrom (List.nil_subset _)]

theorem distinct_distinct_append (fs gs : List Finding) : distinct (distinct fs ++ gs) = distinct (fs ++ gs) := by
  simp only [distinct, distinctFrom_append]
  rw [distinctFrom_distinctFrom (List.nil_subset _)]
  refine congrArg _ (distinctFrom_congr fun g _ => ?_)
  rw [List.mem_append, List.mem_append, mem_identity_distinctFrom]
  simp

/-! ## The first finding of each identity -/

/-- What is kept of some findings: of each identity the first one, in the order in which the identities appear. -/
structure KeepsFirsts (found kept : List Finding) : Prop where
  sublist : kept.Sublist found
  nodup : (kept.map identity).Nodup
  first : ∀ i, kept.find? (·.identity == i) = found.find? (·.identity == i)
  ordered : (kept.map identity).Pairwise fun i j => (found.map identity).idxOf i < (found.map identity).idxOf j

theorem find?_distinctFrom {seen : List (FindingKind × String × String)} {i : FindingKind × String × String}
    (new : i ∉ seen) (fs : List Finding) :
    (distinctFrom seen fs).find? (·.identity == i) = fs.find? (·.identity == i) := by
  induction fs generalizing seen with
  | nil => rfl
  | cons f fs ih =>
      rw [distinctFrom, List.find?_cons]
      by_cases same : f.identity = i
      · rw [if_neg (same ▸ new), List.find?_cons]
        simp [same]
      · rw [beq_eq_false_iff_ne.mpr same]
        split
        · exact ih new
        · rw [List.find?_cons, beq_eq_false_iff_ne.mpr same]
          exact ih (by simp [new, Ne.symm same])

theorem ordered_distinctFrom (seen : List (FindingKind × String × String)) (fs : List Finding) :
    ((distinctFrom seen fs).map identity).Pairwise fun i j =>
      (fs.map identity).idxOf i < (fs.map identity).idxOf j := by
  induction fs generalizing seen with
  | nil => exact .nil
  | cons f fs ih =>
      have later {seen : List (FindingKind × String × String)} {i : FindingKind × String × String}
          (known : f.identity ∈ seen) (member : i ∈ (distinctFrom seen fs).map identity) :
          ((f :: fs).map identity).idxOf i = (fs.map identity).idxOf i + 1 := by
        have other : f.identity ≠ i := fun same => (mem_identity_distinctFrom.mp member).2 (same ▸ known)
        rw [List.map_cons, List.idxOf_cons_ne _ other]
      have shifted {seen : List (FindingKind × String × String)} (known : f.identity ∈ seen) :
          ((distinctFrom seen fs).map identity).Pairwise fun i j =>
            ((f :: fs).map identity).idxOf i < ((f :: fs).map identity).idxOf j := by
        refine (ih seen).imp_of_mem fun first second less => ?_
        rw [later known first, later known second]
        exact Nat.succ_lt_succ less
      rw [distinctFrom]
      split
      · rename_i known
        exact shifted known
      · refine List.pairwise_cons.mpr ⟨fun i member => ?_, shifted List.mem_cons_self⟩
        rw [later List.mem_cons_self member, List.map_cons, List.idxOf_cons_self]
        exact Nat.succ_pos _

theorem keepsFirsts_distinct (fs : List Finding) : KeepsFirsts fs (distinct fs) where
  sublist := distinct_sublist fs
  nodup := distinctFrom_nodup [] fs
  first _ := find?_distinctFrom List.not_mem_nil fs
  ordered := ordered_distinctFrom [] fs

end Finding

/-! ## Summaries -/

namespace Summary

structure SameNumbers (a b : Summary) : Prop where
  assigned : a.assigned = b.assigned
  required : a.required = b.required
  missing : a.missing = b.missing
  unused : a.unused = b.unused
  securityIssues : a.securityIssues = b.securityIssues
  elapsed : a.elapsed.number? = b.elapsed.number?

section
variable {a b c : Summary} (ha : a.elapsed ≠ .nan) (hb : b.elapsed ≠ .nan)
include ha hb

theorem merge_comm : (a.merge b).SameNumbers (b.merge a) where
  assigned := max_comm _ _
  required := max_comm _ _
  missing := max_comm _ _
  unused := max_comm _ _
  securityIssues := add_comm _ _
  elapsed := Binary64.number?_max_comm ha hb

theorem merge_assoc (hc : c.elapsed ≠ .nan) : (a.merge b).merge c = a.merge (b.merge c) := by
  simp only [merge, max_assoc, add_assoc, Binary64.max_assoc ha hb hc]

end

end Summary

/-! ## Verdicts -/

namespace Verdict

/-- What a merge makes of two verdicts: it keeps the first findings, and only they decide whether it is valid. -/
structure Merges (v w merged : Verdict) : Prop where
  keepsFirsts : ∀ s, Finding.KeepsFirsts (v.findings.bySeverity s ++ w.findings.bySeverity s)
    (merged.findings.bySeverity s)
  isValid : merged.isValid = true ↔ v.findings.errors = [] ∧ w.findings.errors = []

/-- Verdicts that report the same identities and the same numbers, perhaps in another order. -/
structure ReportsSame (v w : Verdict) : Prop where
  identities : ∀ s i, i ∈ v.findings.identities s ↔ i ∈ w.findings.identities s
  isValid : v.isValid = w.isValid
  summary : v.summary.SameNumbers w.summary

theorem bySeverity_merge (v w : Verdict) (s : Severity) :
    (v.merge w).findings.bySeverity s = Finding.distinct (v.findings.bySeverity s ++ w.findings.bySeverity s) := by
  rw [merge, ofFindings, Findings.bySeverity_distinct, Findings.bySeverity_append]

theorem identities_merge (v w : Verdict) (s : Severity) (i : FindingKind × String × String) :
    i ∈ (v.merge w).findings.identities s ↔ i ∈ v.findings.identities s ∨ i ∈ w.findings.identities s := by
  rw [merge, ofFindings, Findings.mem_identities_distinct, Findings.mem_identities_append]

theorem merges_merge (v w : Verdict) : Merges v w (v.merge w) where
  keepsFirsts s := by
    rw [bySeverity_merge]
    exact Finding.keepsFirsts_distinct _
  isValid := by
    change (v.merge w).findings.errors.isEmpty = true ↔ _
    rw [List.isEmpty_iff]
    change (v.merge w).findings.bySeverity .error = [] ↔
      v.findings.bySeverity .error = [] ∧ w.findings.bySeverity .error = []
    simp only [Findings.bySeverity_eq_nil_iff, identities_merge, not_or, forall_and]

theorem findings_merge_assoc (u v w : Verdict) :
    ((u.merge v).merge w).findings = (u.merge (v.merge w)).findings := by
  refine Findings.eq_of_bySeverity fun s => ?_
  simp only [bySeverity_merge]
  rw [Finding.distinct_distinct_append, Finding.distinct_append_distinct, List.append_assoc]

/-- Merging is associative and keeps the first finding of each identity; with the other verdict first it reports the same
identities and the same numbers. -/
theorem merge_laws {u v w : Verdict} (hu : u.summary.elapsed ≠ .nan) (hv : v.summary.elapsed ≠ .nan)
    (hw : w.summary.elapsed ≠ .nan) :
    (u.merge v).merge w = u.merge (v.merge w) ∧ Merges u v (u.merge v) ∧ (u.merge v).ReportsSame (v.merge u) := by
  refine ⟨?_, merges_merge u v, ?_⟩
  · have findings := findings_merge_assoc u v w
    have summary := Summary.merge_assoc hu hv hw
    exact congrArg₂ ofFindings findings summary
  · refine ⟨fun s i => ?_, ?_, Summary.merge_comm hu hv⟩
    · rw [identities_merge, identities_merge, or_comm]
    · rw [Bool.eq_iff_iff, (merges_merge u v).isValid, (merges_merge v u).isValid, and_comm]

theorem merge_laws_repeated :
    let custom : Finding :=
      { kind := .custom, variableName := "PORT", message := "Even", line := some 1, severity := .error }
    let u : Verdict := { isValid := true, findings := { errors := [custom, custom] } }
    let v : Verdict :=
      { isValid := false
        findings := { errors := [{ custom with line := some 3 }], warnings := [{ custom with severity := .warning }] }
        summary := { securityIssues := 2, elapsed := .infinite false } }
    let w : Verdict := { isValid := true, summary := { securityIssues := 1, elapsed := .finite true 0 (-1074) } }
    u.summary.elapsed ≠ .nan ∧ v.summary.elapsed ≠ .nan ∧ w.summary.elapsed ≠ .nan ∧
      (u.merge v).merge w = u.merge (v.merge w) ∧ Merges u v (u.merge v) ∧ (u.merge v).ReportsSame (v.merge u) := by
  intro custom u v w
  have hu : u.summary.elapsed ≠ .nan := by decide
  have hv : v.summary.elapsed ≠ .nan := by decide
  have hw : w.summary.elapsed ≠ .nan := by decide
  exact ⟨hu, hv, hw, merge_laws hu hv hw⟩

end Verdict

end EnvAudit
