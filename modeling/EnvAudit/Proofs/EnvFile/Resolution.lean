import EnvAudit.Proofs.EnvFile.Accounting
import EnvAudit.Proofs.EnvFile.Winners
import Mathlib.Data.List.Dedup

namespace EnvAudit

namespace Assignment

/-! ## The winners -/

/-- The assignments behind which their key is not assigned again, in their order. -/
def final (as : List Assignment) : List Assignment :=
  (as.zipIdx.filter fun (a, n) => a.key ∉ (as.drop (n + 1)).map (·.key)).map Prod.fst

theorem final_cons (a : Assignment) (as : List Assignment) :
    final (a :: as) = if a.key ∈ as.map (·.key) then final as else a :: final as := by
  have behind : (((as.zipIdx.map (Prod.map id (· + 1))).filter fun (b, n) =>
      b.key ∉ ((a :: as).drop (n + 1)).map (·.key)).map Prod.fst) = final as := by
    rw [List.filter_map, List.map_map]
    rfl
  rw [final, List.zipIdx_cons']
  by_cases again : a.key ∈ as.map (·.key)
  · rw [List.filter_cons_of_neg (by simpa using again), behind, if_pos again]
  · rw [List.filter_cons_of_pos (by simpa using again), List.map_cons, behind, if_neg again]

theorem effective_eq_final (as : List Assignment) : effective as = final as := by
  induction as with
  | nil => rfl
  | cons a as ih => rw [effective_cons, final_cons, ih]

theorem effective_sublist (as : List Assignment) : (effective as).Sublist as := by
  rw [effective_eq_final, final]
  conv_rhs => rw [← List.zipIdx_map_fst 0 as]
  exact List.filter_sublist.map Prod.fst

theorem effective_effective (as : List Assignment) : effective (effective as) = effective as :=
  effective_of_nodup (keys_effective_nodup as)

theorem keys_effective (as : List Assignment) : (effective as).map (·.key) = (as.map (·.key)).dedup := by
  induction as with
  | nil => rfl
  | cons a as ih =>
      rw [effective_cons, List.map_cons]
      split
      · rename_i again
        rw [List.dedup_cons_of_mem again, ih]
      · rename_i last
        rw [List.dedup_cons_of_notMem last, List.map_cons, ih]

theorem keys_filter_effective (p : String → Bool) (as : List Assignment) :
    ((effective as).filter fun a => p a.key).map (·.key) = (as.map (·.key)).dedup.filter p := by
  rw [← keys_effective, List.filter_map]
  rfl

/-! ## The winner of a key -/

theorem lookup?_cons (a : Assignment) (as : List Assignment) (key : String) :
    lookup? (a :: as) key = (lookup? as key).or (if a.key = key then some a else none) := by
  have one : lookup? [a] key = if a.key = key then some a else none := by
    by_cases same : a.key = key <;> simp [lookup?, same]
  rw [← List.singleton_append, lookup?_append, one]

theorem lookup?_eq_none_iff {as : List Assignment} {key : String} :
    lookup? as key = none ↔ key ∉ as.map (·.key) := by
  rw [← lookup?_isSome_iff, Option.not_isSome_iff_eq_none]

theorem lookup?_eq_find?_effective (as : List Assignment) (key : String) :
    lookup? as key = (effective as).find? (·.key == key) := by
  induction as with
  | nil => rfl
  | cons a as ih =>
      rw [lookup?_cons, effective_cons]
      by_cases again : a.key ∈ as.map (·.key)
      · rw [if_pos again, ← ih]
        split
        · rename_i same
          exact Option.or_of_isSome (lookup?_isSome_iff.mpr (same ▸ again))
        · exact Option.or_none
      · rw [if_neg again, List.find?_cons, ← ih]
        split
        · rename_i same
          rw [lookup?_eq_none_iff.mpr (same ▸ again), Option.none_or, beq_iff_eq.mpr same]
        · rename_i other
          rw [Option.or_none, beq_eq_false_iff_ne.mpr other]

theorem lookup?_effective (as : List Assignment) (key : String) : lookup? (effective as) key = lookup? as key := by
  rw [lookup?_eq_find?_effective, effective_effective, ← lookup?_eq_find?_effective]

theorem mem_effective_iff_lookup? {as : List Assignment} {a : Assignment} :
    a ∈ effective as ↔ lookup? as a.key = some a := by
  constructor
  · intro wins
    obtain ⟨b, found⟩ := Option.isSome_iff_exists.mp
      (lookup?_isSome_iff.mpr (mem_keys_effective.mp (List.mem_map_of_mem wins)))
    obtain ⟨member, same⟩ := mem_effective_of_lookup? found
    obtain rfl := List.inj_on_of_nodup_map (keys_effective_nodup as) member wins same
    exact found
  · exact fun found => (mem_effective_of_lookup? found).1

theorem filter_effective_of_lookup? {as : List Assignment} {key : String} {a : Assignment}
    (found : lookup? as key = some a) : (effective as).filter (·.key == key) = [a] := by
  obtain ⟨wins, rfl⟩ := mem_effective_of_lookup? found
  obtain ⟨before, after, shape⟩ := List.append_of_mem wins
  have distinct := keys_effective_nodup as
  rw [shape, List.map_append, List.map_cons, List.nodup_middle, List.nodup_cons, List.mem_append, not_or] at distinct
  have none {bs : List Assignment} (other : a.key ∉ bs.map (·.key)) : bs.filter (·.key == a.key) = [] := by
    rw [List.filter_eq_nil_iff]
    exact fun b member same => other (beq_iff_eq.mp same ▸ List.mem_map_of_mem member)
  rw [shape, List.filter_append, List.filter_cons_of_pos (by simp), none distinct.1.1, none distinct.1.2,
    List.nil_append]

theorem forall_mem_effective_iff {as : List Assignment} {p : Assignment → Prop} :
    (∀ a ∈ effective as, p a) ↔ ∀ key a, lookup? as key = some a → p a := by
  constructor
  · exact fun all key a found => all a (mem_effective_of_lookup? found).1
  · exact fun all a wins => all a.key a (mem_effective_iff_lookup?.mp wins)

/-! ## The values -/

theorem values_concat (as : List Assignment) (a : Assignment) :
    values (as ++ [a]) = setValue (values as) a.key a.value := by
  rw [values, List.foldl_append]
  rfl

theorem keys_setValue (entries : List (String × String)) (key value : String) :
    (setValue entries key value).map Prod.fst =
      entries.map Prod.fst ++ if key ∈ entries.map Prod.fst then [] else [key] := by
  have present : (entries.any (·.1 == key)) = true ↔ key ∈ entries.map Prod.fst := by
    simp
  unfold setValue
  split
  · rename_i found
    rw [if_pos (present.mp found), List.append_nil, List.map_map]
    refine List.map_congr_left fun entry _ => ?_
    by_cases same : entry.1 = key <;> simp [same]
  · rename_i fresh
    rw [if_neg (fun member => fresh (present.mpr member)), List.map_append, List.map_singleton]

theorem mem_setValue {entries : List (String × String)} {key value : String} {entry : String × String} :
    entry ∈ setValue entries key value ↔ entry = (key, value) ∨ entry ∈ entries ∧ entry.1 ≠ key := by
  unfold setValue
  split
  · rename_i found
    obtain ⟨old, member, same⟩ := List.any_eq_true.mp found
    rw [List.mem_map]
    constructor
    · rintro ⟨before, kept, rfl⟩
      split
      · exact Or.inl rfl
      · rename_i other
        exact Or.inr ⟨kept, by simpa using other⟩
    · rintro (rfl | ⟨kept, other⟩)
      · exact ⟨old, member, if_pos same⟩
      · exact ⟨entry, kept, if_neg (by simpa using other)⟩
  · rename_i fresh
    rw [List.mem_append, List.mem_singleton, or_comm]
    refine or_congr_right ⟨fun kept => ⟨kept, fun same => fresh ?_⟩, And.left⟩
    exact List.any_eq_true.mpr ⟨entry, kept, beq_iff_eq.mpr same⟩

theorem eraseDups_concat (keys : List String) (key : String) :
    (keys ++ [key]).eraseDups = keys.eraseDups ++ if key ∈ keys then [] else [key] := by
  rw [List.eraseDups_append]
  by_cases again : key ∈ keys <;> simp [List.removeAll, again, List.eraseDups_cons]

theorem keys_values (as : List Assignment) : (values as).map Prod.fst = (as.map (·.key)).eraseDups := by
  induction as using List.reverseRecOn with
  | nil => rfl
  | append_singleton as a ih =>
      rw [values_concat, keys_setValue, ih, List.map_append, List.map_singleton, eraseDups_concat]
      simp only [List.mem_eraseDups]

theorem mem_values_iff {as : List Assignment} {key value : String} :
    (key, value) ∈ values as ↔ ∃ a ∈ effective as, a.key = key ∧ a.value = value := by
  induction as using List.reverseRecOn with
  | nil => simp [values, effective]
  | append_singleton as a ih =>
      have one : effective [a] = [a] := rfl
      rw [values_concat, mem_setValue, ih, effective_append, one]
      simp only [List.mem_append, List.mem_filter, List.map_singleton, List.mem_singleton, decide_eq_true_eq,
        Prod.mk.injEq]
      constructor
      · rintro (⟨rfl, rfl⟩ | ⟨⟨b, wins, rfl, rfl⟩, other⟩)
        · exact ⟨a, Or.inr rfl, rfl, rfl⟩
        · exact ⟨b, Or.inl ⟨wins, other⟩, rfl, rfl⟩
      · rintro ⟨b, ⟨wins, other⟩ | rfl, rfl, rfl⟩
        · exact Or.inr ⟨⟨b, wins, rfl, rfl⟩, other⟩
        · exact Or.inl ⟨rfl, rfl⟩

end Assignment

/-! ## Files -/

namespace EnvFile

/-- The views of a file agree that the last assignment of a key wins. -/
structure LastWins (file : EnvFile) : Prop where
  winners : file.effective = Assignment.final file.assignments
  distinct : (file.effective.map (·.key)).Nodup
  assigned : ∀ key, key ∈ file.effective.map (·.key) ↔ key ∈ file.assignments.map (·.key)
  settled : Assignment.effective file.effective = file.effective
  followed : ∀ more, Assignment.effective (file.assignments ++ more) =
    (file.effective.filter fun a => a.key ∉ more.map (·.key)) ++ Assignment.effective more
  found : ∀ key, file.lookup? key = file.effective.find? (·.key == key)
  notFound : ∀ key, file.lookup? key = none ↔ key ∉ file.assignments.map (·.key)
  named : (Assignment.values file.assignments).map Prod.fst = (file.assignments.map (·.key)).eraseDups
  valued : ∀ key value, (key, value) ∈ Assignment.values file.assignments ↔
    ∃ a ∈ file.effective, a.key = key ∧ a.value = value

theorem effective_increase (content : String) : ((parse content).effective.map (·.line)).Pairwise (· < ·) := by
  have increase := (accounts_ofLines (hasLines_splitLines content.toList).not_mem).assigned_increase
  exact increase.sublist ((Assignment.effective_sublist _).map _)

/-- The last assignment of a key wins in every view of a file, and the winners of a text stand on increasing lines. -/
theorem lastWins (file : EnvFile) (content : String) :
    file.LastWins ∧ ((parse content).effective.map (·.line)).Pairwise (· < ·) := by
  refine ⟨?_, effective_increase content⟩
  constructor
  case winners => exact Assignment.effective_eq_final file.assignments
  case distinct => exact Assignment.keys_effective_nodup file.assignments
  case assigned => exact fun key => Assignment.mem_keys_effective
  case settled => exact Assignment.effective_effective file.assignments
  case followed => exact Assignment.effective_append file.assignments
  case found => exact Assignment.lookup?_eq_find?_effective file.assignments
  case notFound => exact fun key => Assignment.lookup?_eq_none_iff
  case named => exact Assignment.keys_values file.assignments
  case valued => exact fun key value => Assignment.mem_values_iff

end EnvFile

end EnvAudit
