import EnvAudit.Finding.Basic
import Mathlib.Data.List.Perm.Basic

namespace EnvAudit

namespace Finding

theorem mem_identity_distinctFrom {seen : List (FindingKind × String × String)} {findings : List Finding}
    {i : FindingKind × String × String} :
    i ∈ (distinctFrom seen findings).map identity ↔ i ∈ findings.map identity ∧ i ∉ seen := by
  induction findings generalizing seen with
  | nil => simp [distinctFrom]
  | cons f findings ih =>
      rw [distinctFrom]
      split
      · rename_i known
        rw [ih, List.map_cons, List.mem_cons]
        constructor
        · exact fun h => ⟨Or.inr h.1, h.2⟩
        · rintro ⟨rfl | later, new⟩
          · exact absurd known new
          · exact ⟨later, new⟩
      · rename_i new
        rw [List.map_cons, List.mem_cons, ih, List.map_cons, List.mem_cons, List.mem_cons, not_or]
        constructor
        · rintro (rfl | later)
          · exact ⟨Or.inl rfl, new⟩
          · exact ⟨Or.inr later.1, later.2.2⟩
        · rintro ⟨rfl | later, unseen⟩
          · exact Or.inl rfl
          · by_cases same : i = f.identity
            · exact Or.inl same
            · exact Or.inr ⟨later, same, unseen⟩

theorem mem_identity_distinct {findings : List Finding} {i : FindingKind × String × String} :
    i ∈ (distinct findings).map identity ↔ i ∈ findings.map identity := by
  rw [distinct, mem_identity_distinctFrom]
  simp

theorem distinctFrom_sublist (seen : List (FindingKind × String × String)) (findings : List Finding) :
    (distinctFrom seen findings).Sublist findings := by
  induction findings generalizing seen with
  | nil => exact .slnil
  | cons f findings ih =>
      rw [distinctFrom]
      split
      · exact (ih seen).cons f
      · exact (ih _).cons_cons f

theorem distinct_sublist (findings : List Finding) : (distinct findings).Sublist findings :=
  distinctFrom_sublist [] findings

end Finding

namespace Findings

def bySeverity (f : Findings) : Severity → List Finding
  | .error => f.errors
  | .warning => f.warnings
  | .info => f.info

@[simp] theorem bySeverity_append (f g : Findings) (s : Severity) :
    (f ++ g).bySeverity s = f.bySeverity s ++ g.bySeverity s := by
  cases s <;> rfl

@[simp] theorem bySeverity_ofList (findings : List Finding) (s : Severity) :
    (ofList findings).bySeverity s = findings.filter (·.severity == s) := by
  cases s <;> rfl

@[simp] theorem bySeverity_distinct (f : Findings) (s : Severity) :
    f.distinct.bySeverity s = Finding.distinct (f.bySeverity s) := by
  cases s <;> rfl

theorem eq_of_bySeverity {f g : Findings} (same : ∀ s, f.bySeverity s = g.bySeverity s) : f = g := by
  obtain ⟨errors, warnings, info⟩ := f
  obtain rfl : errors = g.errors := same .error
  obtain rfl : warnings = g.warnings := same .warning
  obtain rfl : info = g.info := same .info
  rfl

theorem append_assoc (f g h : Findings) : f ++ g ++ h = f ++ (g ++ h) := by
  change (f.append g).append h = f.append (g.append h)
  simp only [append, List.append_assoc]

def Perm (f g : Findings) : Prop := ∀ s, (f.bySeverity s).Perm (g.bySeverity s)

def identities (f : Findings) (s : Severity) : List (FindingKind × String × String) :=
  (f.bySeverity s).map Finding.identity

theorem mem_identities_append {f g : Findings} {s : Severity} {i : FindingKind × String × String} :
    i ∈ (f ++ g).identities s ↔ i ∈ f.identities s ∨ i ∈ g.identities s := by
  simp only [identities, bySeverity_append, List.map_append, List.mem_append]

theorem mem_identities_distinct {f : Findings} {s : Severity} {i : FindingKind × String × String} :
    i ∈ f.distinct.identities s ↔ i ∈ f.identities s := by
  rw [identities, bySeverity_distinct, Finding.mem_identity_distinct, identities]

theorem bySeverity_eq_nil_iff {f : Findings} {s : Severity} :
    f.bySeverity s = [] ↔ ∀ i, i ∉ f.identities s := by
  rw [← List.eq_nil_iff_forall_not_mem, identities, List.map_eq_nil_iff]

end Findings

end EnvAudit
