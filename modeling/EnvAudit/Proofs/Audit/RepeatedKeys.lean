import EnvAudit.Catalogue
import EnvAudit.Proofs.Audit.Places
import EnvAudit.Proofs.EnvFile.Resolution
import Mathlib.Data.List.Pairwise

namespace EnvAudit

namespace Assignment

/-- The first key has been assigned twice when the second one has not. -/
def RepeatsBefore (keys : List String) (j k : String) : Prop :=
  ∃ seen, seen <+: keys ∧ 2 ≤ seen.count j ∧ seen.count k < 2

theorem RepeatsBefore.asymm {keys : List String} {j k : String} (h : RepeatsBefore keys j k) :
    ¬RepeatsBefore keys k j := by
  rintro ⟨later, inKeys, twice, once⟩
  obtain ⟨seen, within, early, late⟩ := h
  rcases List.prefix_or_prefix_of_prefix within inKeys with shorter | longer
  · have grown := shorter.sublist.count_le j
    omega
  · have grown := longer.sublist.count_le k
    omega

theorem mem_keys_of_mem_repeatedKeys {as : List Assignment} {key : String} (h : key ∈ repeatedKeys as) :
    key ∈ as.map (·.key) :=
  List.count_pos_iff.mp (Nat.zero_lt_two.trans_le (mem_repeatedKeys.mp h))

theorem repeatedKeys_eq_foldl (as : List Assignment) : repeatedKeys as = (as.foldl noteKey ([], [])).2 := rfl

theorem repeatedKeys_concat (as : List Assignment) (a : Assignment) :
    repeatedKeys (as ++ [a]) =
      repeatedKeys as ++ if (as.map (·.key)).count a.key = 1 then [a.key] else [] := by
  have noted := noted_foldl as
  have step : repeatedKeys (as ++ [a]) = (noteKey (as.foldl noteKey ([], [])) a).2 := by
    rw [repeatedKeys_eq_foldl, List.foldl_concat]
  have second : (decide (a.key ∈ (as.foldl noteKey ([], [])).1) &&
      decide (a.key ∉ (as.foldl noteKey ([], [])).2)) = true ↔ (as.map (·.key)).count a.key = 1 := by
    rw [Bool.and_eq_true, decide_eq_true_eq, decide_eq_true_eq, noted.seen, noted.again]
    omega
  rw [step, noteKey]
  split
  · rename_i again
    rw [if_pos (second.mp again)]
    rfl
  · rename_i other
    rw [if_neg fun once => other (second.mpr once), List.append_nil]
    rfl

theorem repeatedKeys_pairwise (as : List Assignment) :
    (repeatedKeys as).Pairwise (RepeatsBefore (as.map (·.key))) := by
  induction as using List.reverseRecOn with
  | nil => exact .nil
  | append_singleton as a ih =>
      have keys : (as ++ [a]).map (·.key) = as.map (·.key) ++ [a.key] := List.map_append
      have before : (repeatedKeys as).Pairwise (RepeatsBefore ((as ++ [a]).map (·.key))) :=
        ih.imp fun ⟨seen, within, counts⟩ => ⟨seen, keys ▸ within.trans (List.prefix_append _ _), counts⟩
      rw [repeatedKeys_concat]
      split
      · rename_i once
        refine List.pairwise_append.mpr ⟨before, List.pairwise_singleton _ _, fun j repeated k new => ?_⟩
        obtain rfl := List.mem_singleton.mp new
        exact ⟨as.map (·.key), keys ▸ List.prefix_append _ _, mem_repeatedKeys.mp repeated, once ▸ Nat.one_lt_two⟩
      · rw [List.append_nil]
        exact before

theorem pairwise_idxOf_eraseDups (keys : List String) :
    keys.eraseDups.Pairwise fun j k => keys.idxOf j < keys.idxOf k := by
  induction keys using List.reverseRecOn with
  | nil => exact .nil
  | append_singleton keys key ih =>
      have before : keys.eraseDups.Pairwise fun j k => (keys ++ [key]).idxOf j < (keys ++ [key]).idxOf k := by
        refine ih.imp_of_mem fun first second less => ?_
        rw [List.mem_eraseDups] at first second
        rwa [List.idxOf_append_of_mem first, List.idxOf_append_of_mem second]
      rw [eraseDups_concat]
      split
      · rw [List.append_nil]
        exact before
      · rename_i fresh
        refine List.pairwise_append.mpr ⟨before, List.pairwise_singleton _ _, fun j earlier k new => ?_⟩
        obtain rfl := List.mem_singleton.mp new
        rw [List.mem_eraseDups] at earlier
        rw [List.idxOf_append_of_mem earlier, List.idxOf_append_of_notMem fresh]
        have inside := List.idxOf_lt_length_of_mem earlier
        omega

def repeatedByAppearance (as : List Assignment) : List String :=
  (as.map (·.key)).eraseDups.filter fun key => 2 ≤ (as.map (·.key)).count key

theorem mem_repeatedByAppearance {as : List Assignment} {key : String} :
    key ∈ repeatedByAppearance as ↔ key ∈ repeatedKeys as := by
  rw [repeatedByAppearance, List.mem_filter, List.mem_eraseDups, decide_eq_true_eq, mem_repeatedKeys]
  exact ⟨And.right, fun twice => ⟨mem_keys_of_mem_repeatedKeys (mem_repeatedKeys.mpr twice), twice⟩⟩

theorem repeatedByAppearance_pairwise (as : List Assignment) :
    (repeatedByAppearance as).Pairwise fun j k => (as.map (·.key)).idxOf j < (as.map (·.key)).idxOf k :=
  (pairwise_idxOf_eraseDups _).sublist List.filter_sublist

theorem either_of_pairwise {R : String → String → Prop} {keys : List String} (ordered : keys.Pairwise R) {j k : String}
    (first : j ∈ keys) (second : k ∈ keys) (different : j ≠ k) : R j k ∨ R k j := by
  have symmetric : Std.Symm fun j k => R j k ∨ R k j := ⟨fun _ _ => Or.symm⟩
  have either : keys.Pairwise fun j k => R j k ∨ R k j := ordered.imp Or.inl
  exact either.forall first second different

theorem repeatedKeys_eq_byAppearance_iff (as : List Assignment) :
    repeatedKeys as = repeatedByAppearance as ↔
      ∀ j ∈ repeatedKeys as, ∀ k ∈ repeatedKeys as, (as.map (·.key)).idxOf j < (as.map (·.key)).idxOf k →
        RepeatsBefore (as.map (·.key)) j k := by
  have bySecond := repeatedKeys_pairwise as
  have byFirst := repeatedByAppearance_pairwise as
  constructor
  · intro same j inList k inList' less
    rw [← same] at byFirst
    have different : j ≠ k := fun equal => (equal ▸ less).false
    rcases either_of_pairwise (bySecond.and byFirst) inList inList' different with before | behind
    · exact before.1
    · exact absurd behind.2 less.asymm
  · intro agree
    have nodup : (repeatedByAppearance as).Nodup := byFirst.imp fun less equal => (equal ▸ less).false
    have perm : (repeatedKeys as).Perm (repeatedByAppearance as) :=
      (List.perm_ext_iff_of_nodup (repeatedKeys_nodup as) nodup).mpr fun key => mem_repeatedByAppearance.symm
    refine perm.eq_of_pairwise (fun j k _ _ less more => absurd less more.asymm) ?_ byFirst
    refine bySecond.imp_of_mem fun {j k} inList inList' before => ?_
    rcases lt_trichotomy ((as.map (·.key)).idxOf j) ((as.map (·.key)).idxOf k) with less | equal | more
    · exact less
    · have assigned := mem_keys_of_mem_repeatedKeys inList
      obtain rfl := (List.idxOf_inj assigned).mp equal
      exact absurd before before.asymm
    · exact absurd before (agree k inList' j inList more).asymm

end Assignment

/-- How a file lists the keys that repeat: each once, in the order of their second assignments. The order in which they
appear is another one unless the keys repeat in that order. -/
structure EnvFile.ListsRepeated (file : EnvFile) : Prop where
  once : ∀ key, file.repeatedKeys.count key = if 2 ≤ (file.assignments.map (·.key)).count key then 1 else 0
  ordered : file.repeatedKeys.Pairwise (Assignment.RepeatsBefore (file.assignments.map (·.key)))
  byAppearance_iff : file.repeatedKeys = Assignment.repeatedByAppearance file.assignments ↔
    ∀ j ∈ file.repeatedKeys, ∀ k ∈ file.repeatedKeys,
      (file.assignments.map (·.key)).idxOf j < (file.assignments.map (·.key)).idxOf k →
        Assignment.RepeatsBefore (file.assignments.map (·.key)) j k

theorem EnvFile.listsRepeated (file : EnvFile) : file.ListsRepeated where
  once := Assignment.count_repeatedKeys file.assignments
  ordered := Assignment.repeatedKeys_pairwise file.assignments
  byAppearance_iff := Assignment.repeatedKeys_eq_byAppearance_iff file.assignments

namespace Auditor

section
variable [Host]

/-- Keys that repeat are listed by their second assignments, and an audit has a note for each of them in that order. -/
theorem audit_listsRepeated (auditor : Auditor) (w : Workspace) (file : EnvFile) :
    file.ListsRepeated ∧ (repeatedNotes file).map (·.variableName) = file.repeatedKeys ∧
      ∀ v, file.malformed = [] → auditor.audit w file = .ok v →
        ∃ before after, v.findings.info = before ++ repeatedNotes file ++ after := by
  refine ⟨file.listsRepeated, variableNames_repeatedNotes file, fun v wellFormed made => ?_⟩
  obtain ⟨basis, -, rfl⟩ := (auditor.audit_eq_ok w wellFormed).mp made
  rw [findings_verdict]
  exact ⟨_, _, rfl⟩

end

attribute [local instance] Host.shipped in
theorem audit_listsRepeated_nested :
    let file := EnvFile.parse "A=1\nB=1\nB=2\nA=2"
    let auditor : Auditor := { config := { mode := some .example }, samples := some [] }
    file.malformed = [] ∧ ∃ v, auditor.audit default file = .ok v ∧
      ∃ before after, v.findings.info = before ++ repeatedNotes file ++ after := by
  intro file auditor
  have wellFormed : file.malformed = [] := by decide
  have made : auditor.audit default file = .ok (auditor.verdict file (.samples [])) :=
    (auditor.audit_eq_ok default wellFormed).mpr ⟨.samples [], rfl, rfl⟩
  exact ⟨wellFormed, _, made, (audit_listsRepeated auditor default file).2.2 _ wellFormed made⟩

theorem repeatedKeys_ne_byAppearance :
    let file := EnvFile.parse "A=1\nB=1\nB=2\nA=2"
    Assignment.repeatedByAppearance file.assignments = ["A", "B"] ∧ file.repeatedKeys = ["B", "A"] ∧
      (repeatedNotes file).map (·.variableName) = ["B", "A"] := by
  decide

end Auditor

end EnvAudit
