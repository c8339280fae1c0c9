import EnvAudit.EnvFile.Basic
import Mathlib.Data.Finset.Card
import Mathlib.Data.List.Induction
import Mathlib.Data.List.Nodup

namespace EnvAudit.Assignment

/-! ## The winners -/

def override (kept : List Assignment) (a : Assignment) : List Assignment :=
  kept.filter (·.key != a.key) ++ [a]

theorem effective_eq_foldl (as : List Assignment) : effective as = as.foldl override [] := rfl

theorem foldl_override (kept as : List Assignment) :
    as.foldl override kept = (kept.filter fun b => b.key ∉ as.map (·.key)) ++ effective as := by
  induction as generalizing kept with
  | nil => simp [effective]
  | cons a as ih =>
      rw [effective_eq_foldl, List.foldl_cons, List.foldl_cons, ih, ih (override [] a), override,
        override, List.filter_append, List.filter_filter, List.append_assoc]
      congr 1
      apply List.filter_congr
      intro b _
      by_cases same : b.key = a.key <;> simp [same]

theorem effective_append (as bs : List Assignment) :
    effective (as ++ bs) = ((effective as).filter fun a => a.key ∉ bs.map (·.key)) ++ effective bs := by
  rw [effective_eq_foldl, List.foldl_append, foldl_override, effective_eq_foldl as]

theorem effective_cons (a : Assignment) (as : List Assignment) :
    effective (a :: as) = if a.key ∈ as.map (·.key) then effective as else a :: effective as := by
  have one : effective [a] = [a] := rfl
  rw [← List.singleton_append, effective_append, one, List.filter_singleton]
  by_cases again : a.key ∈ as.map (·.key) <;> simp only [again, decide_not, decide_true, decide_false,
    Bool.not_true, Bool.not_false, cond_true, cond_false, if_true, if_false, List.nil_append,
    List.singleton_append]

theorem mem_keys_effective {as : List Assignment} {key : String} :
    key ∈ (effective as).map (·.key) ↔ key ∈ as.map (·.key) := by
  induction as with
  | nil => rfl
  | cons a as ih =>
      rw [effective_cons, List.map_cons, List.mem_cons]
      split
      · rename_i again
        rw [ih]
        constructor
        · exact Or.inr
        · rintro (rfl | later)
          · exact again
          · exact later
      · rw [List.map_cons, List.mem_cons, ih]

theorem keys_effective_nodup (as : List Assignment) : ((effective as).map (·.key)).Nodup := by
  induction as with
  | nil => exact .nil
  | cons a as ih =>
      rw [effective_cons]
      split
      · exact ih
      · rename_i last
        rw [List.map_cons, List.nodup_cons, mem_keys_effective]
        exact ⟨last, ih⟩

theorem length_effective (as : List Assignment) :
    (effective as).length = (as.map (·.key)).toFinset.card := by
  have same : ((effective as).map (·.key)).toFinset = (as.map (·.key)).toFinset := by
    ext key
    rw [List.mem_toFinset, List.mem_toFinset, mem_keys_effective]
  rw [← same, List.toFinset_card_of_nodup (keys_effective_nodup as), List.length_map]

theorem effective_of_nodup {as : List Assignment} (distinct : (as.map (·.key)).Nodup) : effective as = as := by
  induction as with
  | nil => rfl
  | cons a as ih =>
      rw [List.map_cons, List.nodup_cons] at distinct
      rw [effective_cons, if_neg distinct.1, ih distinct.2]

theorem mem_effective_iff {as : List Assignment} {a : Assignment} :
    a ∈ effective as ↔ ∃ before after, as = before ++ a :: after ∧ a.key ∉ after.map (·.key) := by
  induction as with
  | nil => simp [effective]
  | cons b as ih =>
      rw [effective_cons]
      split
      · rename_i again
        rw [ih]
        constructor
        · rintro ⟨before, after, rfl, last⟩
          exact ⟨b :: before, after, rfl, last⟩
        · rintro ⟨before, after, shape, last⟩
          cases before with
          | nil =>
              obtain ⟨rfl, rfl⟩ := List.cons.inj shape
              exact absurd again last
          | cons c before => exact ⟨before, after, (List.cons.inj shape).2, last⟩
      · rename_i last
        rw [List.mem_cons, ih]
        constructor
        · rintro (rfl | ⟨before, after, rfl, later⟩)
          · exact ⟨[], as, rfl, last⟩
          · exact ⟨b :: before, after, rfl, later⟩
        · rintro ⟨before, after, shape, later⟩
          cases before with
          | nil => exact Or.inl (List.cons.inj shape).1.symm
          | cons c before => exact Or.inr ⟨before, after, (List.cons.inj shape).2, later⟩

theorem effective_subset (as : List Assignment) : effective as ⊆ as := by
  intro a member
  obtain ⟨before, after, rfl, -⟩ := mem_effective_iff.mp member
  exact List.mem_append_right _ List.mem_cons_self

section Overridden
variable {x : Assignment} (before : List Assignment) {after : List Assignment}

theorem effective_insert (overridden : x.key ∈ after.map (·.key)) :
    effective (before ++ x :: after) = effective (before ++ after) := by
  rw [effective_append, effective_append, effective_cons, if_pos overridden]
  congr 1
  apply List.filter_congr
  intro a _
  by_cases same : a.key = x.key
  · simp only [same, List.map_cons, List.mem_cons_self, overridden]
  · simp [same]

/-! ## The winner of a key -/

theorem lookup?_append (as bs : List Assignment) (key : String) :
    lookup? (as ++ bs) key = (lookup? bs key).or (lookup? as key) := by
  rw [lookup?, List.reverse_append, List.find?_append, lookup?, lookup?]

theorem lookup?_isSome_iff {as : List Assignment} {key : String} :
    (lookup? as key).isSome = true ↔ key ∈ as.map (·.key) := by
  simp [lookup?, List.find?_isSome]

theorem mem_effective_of_lookup? {as : List Assignment} {key : String} {a : Assignment}
    (found : lookup? as key = some a) : a ∈ effective as ∧ a.key = key := by
  obtain ⟨isKey, after, before, shape, last⟩ := List.find?_eq_some_iff_append.mp found
  have same : a.key = key := by simpa using isKey
  have order : as = before.reverse ++ a :: after.reverse := by simpa using congrArg List.reverse shape
  refine ⟨mem_effective_iff.mpr ⟨before.reverse, after.reverse, order, ?_⟩, same⟩
  simpa [same] using last

theorem lookup?_insert (overridden : x.key ∈ after.map (·.key)) (key : String) :
    lookup? (before ++ x :: after) key = lookup? (before ++ after) key := by
  have later : lookup? (x :: after) key = lookup? after key := by
    rw [← List.singleton_append, lookup?_append]
    by_cases same : x.key = key
    · obtain ⟨winner, found⟩ := Option.isSome_iff_exists.mp
        (lookup?_isSome_iff.mpr (same ▸ overridden))
      rw [found, Option.some_or]
    · have none : lookup? [x] key = none := by simp [lookup?, same]
      rw [none, Option.or_none]
  rw [lookup?_append, lookup?_append, later]

end Overridden

/-! ## Repeated keys -/

def noteKey (state : List String × List String) (a : Assignment) : List String × List String :=
  (a.key :: state.1,
    if a.key ∈ state.1 && a.key ∉ state.2 then state.2 ++ [a.key] else state.2)

theorem count_keys_insert (before after : List Assignment) (a : Assignment) (key : String) :
    ((before ++ a :: after).map (·.key)).count key =
      ((before ++ after).map (·.key)).count key + if a.key = key then 1 else 0 := by
  simp only [List.map_append, List.map_cons, List.count_append, List.count_cons, beq_iff_eq]
  omega

/-- The invariant of `repeatedKeys`: all keys so far were seen, and those that were seen again occur twice. -/
structure Noted (as : List Assignment) (state : List String × List String) : Prop where
  seen : ∀ key, key ∈ state.1 ↔ 1 ≤ (as.map (·.key)).count key
  nodup : state.2.Nodup
  again : ∀ key, key ∈ state.2 ↔ 2 ≤ (as.map (·.key)).count key

theorem Noted.noteKey {as : List Assignment} {state : List String × List String} (h : Noted as state)
    (a : Assignment) : Noted (as ++ [a]) (noteKey state a) := by
  have count (key : String) : ((as ++ [a]).map (·.key)).count key =
      (as.map (·.key)).count key + if a.key = key then 1 else 0 := by
    simpa using count_keys_insert as [] a key
  have seen (key : String) : key ∈ a.key :: state.1 ↔ 1 ≤ ((as ++ [a]).map (·.key)).count key := by
    rw [List.mem_cons, h.seen, count]
    split <;> grind
  unfold Assignment.noteKey
  split
  · rename_i second
    simp only [Bool.and_eq_true, decide_eq_true_eq, h.seen, h.again] at second
    refine ⟨seen, ?_, fun key => ?_⟩
    · have fresh : a.key ∉ state.2 := fun member => second.2 ((h.again a.key).mp member)
      simpa using h.nodup.concat fresh
    · rw [List.mem_append, h.again, List.mem_singleton, count]
      split <;> grind
  · rename_i first
    simp only [Bool.and_eq_true, decide_eq_true_eq, h.seen, h.again] at first
    refine ⟨seen, h.nodup, fun key => ?_⟩
    rw [h.again, count]
    split <;> grind

theorem noted_foldl (as : List Assignment) : Noted as (as.foldl noteKey ([], [])) := by
  induction as using List.reverseRecOn with
  | nil => exact ⟨by simp, .nil, by simp⟩
  | append_singleton as a ih =>
      rw [List.foldl_append]
      exact ih.noteKey a

theorem repeatedKeys_nodup (as : List Assignment) : (repeatedKeys as).Nodup := (noted_foldl as).nodup

theorem mem_repeatedKeys {as : List Assignment} {key : String} :
    key ∈ repeatedKeys as ↔ 2 ≤ (as.map (·.key)).count key :=
  (noted_foldl as).again key

theorem count_repeatedKeys (as : List Assignment) (key : String) :
    (repeatedKeys as).count key = if 2 ≤ (as.map (·.key)).count key then 1 else 0 := by
  rw [(repeatedKeys_nodup as).count]
  simp only [mem_repeatedKeys]

theorem repeatedKeys_insert {x : Assignment} (before : List Assignment) {after : List Assignment}
    (overridden : x.key ∈ after.map (·.key)) :
    (repeatedKeys (before ++ x :: after)).Perm
      (repeatedKeys (before ++ after) ++
        if ((before ++ after).map (·.key)).count x.key = 1 then [x.key] else []) := by
  have once : 1 ≤ ((before ++ after).map (·.key)).count x.key := by
    rw [List.one_le_count_iff, List.map_append]
    exact List.mem_append_right _ overridden
  rw [List.perm_ext_iff_of_nodup (repeatedKeys_nodup _)]
  · intro key
    rw [mem_repeatedKeys, List.mem_append, mem_repeatedKeys, count_keys_insert]
    by_cases same : x.key = key
    · subst same
      by_cases single : ((before ++ after).map (·.key)).count x.key = 1
      · simp only [single, if_true, List.mem_singleton, or_true, iff_true]
        omega
      · simp only [single, if_true, if_false, List.not_mem_nil]
        omega
    · have other : key ∉ if ((before ++ after).map (·.key)).count x.key = 1 then [x.key] else [] := by
        split <;> simp [Ne.symm same]
      simp only [same, if_false, Nat.add_zero, other, or_false]
  · refine List.nodup_append.mpr ⟨repeatedKeys_nodup _, by split <;> simp, fun key member other new => ?_⟩
    rw [mem_repeatedKeys] at member
    split at new
    · rw [List.mem_singleton.mp new]
      rintro rfl
      omega
    · cases new

end EnvAudit.Assignment
