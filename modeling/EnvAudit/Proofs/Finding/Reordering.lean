import EnvAudit.EnvFile.Basic
import EnvAudit.Proofs.Finding.Severities
import Mathlib.Data.List.Nodup

/-!
# Reordered findings

Of findings that agree in kind, variable and message the first is kept, so what is kept of a reordered list could
be another finding. It is not if the first finding of each identity stays the same, which `Reordered` adds to a
permutation. Findings on assignments with distinct keys may be reordered at will.
-/

namespace EnvAudit

namespace Finding

theorem mem_distinctFrom {seen : List (FindingKind × String × String)} {fs : List Finding} {f : Finding} :
    f ∈ distinctFrom seen fs ↔
      fs.find? (·.identity == f.identity) = some f ∧ f.identity ∉ seen := by
  induction fs generalizing seen with
  | nil => simp [distinctFrom]
  | cons g fs ih =>
      rw [distinctFrom, List.find?_cons]
      by_cases same : g.identity = f.identity
      · simp only [same, beq_self_eq_true]
        split
        · rename_i known
          rw [ih]
          simp [known]
        · rename_i new
          rw [List.mem_cons, ih]
          simp [new, eq_comm]
      · have other : f ≠ g := fun eq => same (eq ▸ rfl)
        simp only [beq_eq_false_iff_ne.mpr same]
        split
        · exact ih
        · rw [List.mem_cons, ih]
          simp [other, Ne.symm same]

theorem distinctFrom_nodup (seen : List (FindingKind × String × String)) (fs : List Finding) :
    ((distinctFrom seen fs).map identity).Nodup := by
  induction fs generalizing seen with
  | nil => exact .nil
  | cons f fs ih =>
      rw [distinctFrom]
      split
      · exact ih seen
      · rw [List.map_cons, List.nodup_cons, mem_identity_distinctFrom]
        exact ⟨fun later => later.2 List.mem_cons_self, ih _⟩

/-- A permutation that leaves the first finding of each identity in front of the others. -/
structure Reordered (fs gs : List Finding) : Prop where
  perm : fs.Perm gs
  first : ∀ i, fs.find? (·.identity == i) = gs.find? (·.identity == i)

namespace Reordered

section
variable {fs gs fs' gs' : List Finding}

theorem refl (fs : List Finding) : Reordered fs fs := ⟨.refl fs, fun _ => rfl⟩

theorem append (h : Reordered fs gs) (h' : Reordered fs' gs') : Reordered (fs ++ fs') (gs ++ gs') := by
  refine ⟨h.perm.append h'.perm, fun i => ?_⟩
  rw [List.find?_append, List.find?_append, h.first, h'.first]

theorem distinct (h : Reordered fs gs) : (distinct fs).Perm (distinct gs) := by
  unfold Finding.distinct
  rw [List.perm_ext_iff_of_nodup (distinctFrom_nodup [] fs).of_map (distinctFrom_nodup [] gs).of_map]
  intro f
  rw [mem_distinctFrom, mem_distinctFrom, h.first]

theorem of_perm (perm : fs.Perm gs) (one : ∀ f ∈ fs, ∀ g ∈ fs, f.identity = g.identity → f = g) :
    Reordered fs gs := by
  refine ⟨perm, fun i => ?_⟩
  cases found : gs.find? (·.identity == i) with
  | none =>
      rw [List.find?_eq_none] at found ⊢
      exact fun f member => found f (perm.subset member)
  | some g =>
      have member := perm.symm.subset (List.mem_of_find?_eq_some found)
      have same : g.identity = i := by simpa using List.find?_some found
      have some : (fs.find? (·.identity == i)).isSome := List.find?_isSome.mpr ⟨g, member, by simp [same]⟩
      obtain ⟨f, first⟩ := Option.isSome_iff_exists.mp some
      have alike : f.identity = i := by simpa using List.find?_some first
      rw [first, one f (List.mem_of_find?_eq_some first) g member (alike.trans same.symm)]

end

end Reordered

/-- A finding on an assignment that the assignment determines, apart from what is found. -/
structure IsAbout (hint : Assignment → Option String) (severity : Severity) (a : Assignment) (f : Finding) :
    Prop where
  variableName : f.variableName = a.key
  line : f.line = some a.line
  suggestion : f.suggestion = hint a
  severity : f.severity = severity

theorem IsAbout.eq_of_identity {hint : Assignment → Option String} {severity : Severity} {a : Assignment}
    {f g : Finding} (hf : IsAbout hint severity a f) (hg : IsAbout hint severity a g)
    (same : f.identity = g.identity) : f = g := by
  obtain ⟨kind, variableName, message⟩ : f.kind = g.kind ∧ f.variableName = g.variableName ∧
      f.message = g.message := by simpa [identity] using same
  cases f
  cases g
  obtain ⟨-, fline, fhint, fseverity⟩ := hf
  obtain ⟨-, gline, ghint, gseverity⟩ := hg
  simp_all

theorem Reordered.of_isAbout (hint : Assignment → Option String) (severity : Severity) {as : List Assignment}
    {fs gs : List Finding} (distinct : (as.map (·.key)).Nodup) (perm : fs.Perm gs)
    (about : ∀ f ∈ fs, ∃ a ∈ as, IsAbout hint severity a f) : Reordered fs gs := by
  apply Reordered.of_perm perm
  intro f hf g hg same
  obtain ⟨a, ha, onA⟩ := about f hf
  obtain ⟨b, hb, onB⟩ := about g hg
  have keys : a.key = b.key := by
    rw [← onA.variableName, ← onB.variableName]
    exact congrArg (·.2.1) same
  obtain rfl := List.inj_on_of_nodup_map distinct ha hb keys
  exact onA.eq_of_identity onB same

end Finding

end EnvAudit
