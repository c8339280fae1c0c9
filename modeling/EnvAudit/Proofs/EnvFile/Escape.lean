import EnvAudit.EnvFile.Line
import Mathlib.Data.List.Infix

namespace EnvAudit.RawValue

theorem replaceEscape_eq_self {letter : Char} (result : Char) {s : List Char}
    (h : ¬ ['\\', letter] <:+: s) : replaceEscape letter result s = s := by
  fun_induction replaceEscape letter result s with
  | case1 rest => exact absurd (List.prefix_append ['\\', letter] rest).isInfix h
  | case2 c rest other ih => rw [ih fun found => h (List.infix_cons found)]
  | case3 c rest single ih => rw [ih fun found => h (List.infix_cons found)]
  | case4 => rfl

theorem length_replaceEscape_le (letter result : Char) (s : List Char) :
    (replaceEscape letter result s).length ≤ s.length := by
  fun_induction replaceEscape letter result s with
  | case1 rest ih =>
      simp only [List.length_cons]
      omega
  | case2 c rest other ih => simpa using ih
  | case3 c rest single ih => simpa using ih
  | case4 => exact Nat.le_refl _

theorem length_replaceEscape_lt {letter : Char} (result : Char) {s : List Char}
    (h : ['\\', letter] <:+: s) : (replaceEscape letter result s).length < s.length := by
  fun_induction replaceEscape letter result s with
  | case1 rest ih =>
      have := length_replaceEscape_le letter result rest
      simp only [List.length_cons]
      omega
  | case2 c rest other ih =>
      rcases List.infix_cons_iff.mp h with front | later
      · exact absurd (by simpa using front) (Ne.symm other)
      · simpa using ih later
  | case3 c rest single ih =>
      rcases List.infix_cons_iff.mp h with front | later
      · obtain ⟨tail, shape⟩ := front
        cases shape
        exact absurd rfl (single letter tail rfl)
      · simpa using ih later
  | case4 => simp at h

theorem mem_of_mem_replaceEscape {letter result c : Char} {s : List Char}
    (h : c ∈ replaceEscape letter result s) : c = result ∨ c ∈ s := by
  fun_induction replaceEscape letter result s with
  | case1 rest ih =>
      rcases List.mem_cons.mp h with same | later
      · exact Or.inl same
      · exact (ih later).imp_right fun m => by simp [m]
  | case2 d rest other ih =>
      rcases List.mem_cons.mp h with same | later
      · exact Or.inr (by simp [same])
      · exact (ih later).imp_right fun m => List.mem_cons_of_mem _ m
  | case3 d rest single ih =>
      rcases List.mem_cons.mp h with same | later
      · exact Or.inr (by simp [same])
      · exact (ih later).imp_right fun m => List.mem_cons_of_mem _ m
  | case4 => exact Or.inr h

def escapes : List (Char × Char) := [('n', '\n'), ('r', '\r'), ('t', '\t'), ('\\', '\\'), ('"', '"')]

def replaceAll (pairs : List (Char × Char)) (s : List Char) : List Char :=
  pairs.foldl (fun s pair => replaceEscape pair.1 pair.2 s) s

theorem unescape_eq_replaceAll (s : List Char) : unescape s = replaceAll escapes s := rfl

theorem length_replaceAll_le (pairs : List (Char × Char)) (s : List Char) :
    (replaceAll pairs s).length ≤ s.length := by
  induction pairs generalizing s with
  | nil => exact Nat.le_refl _
  | cons pair pairs ih => exact (ih _).trans (length_replaceEscape_le pair.1 pair.2 s)

theorem replaceAll_eq_self_iff {pairs : List (Char × Char)} {s : List Char} :
    replaceAll pairs s = s ↔ ∀ pair ∈ pairs, ¬ ['\\', pair.1] <:+: s := by
  induction pairs with
  | nil => simp [replaceAll]
  | cons pair pairs ih =>
      have step : replaceAll (pair :: pairs) s = replaceAll pairs (replaceEscape pair.1 pair.2 s) := rfl
      rw [step, List.forall_mem_cons]
      by_cases found : ['\\', pair.1] <:+: s
      · have shorter := (length_replaceAll_le pairs _).trans_lt (length_replaceEscape_lt pair.2 found)
        constructor
        · intro same
          rw [same] at shorter
          exact absurd shorter (Nat.lt_irrefl _)
        · exact fun h => absurd found h.1
      · rw [replaceEscape_eq_self pair.2 found, ih]
        simp [found]

theorem mem_of_mem_replaceAll {pairs : List (Char × Char)} {c : Char} {s : List Char}
    (h : c ∈ replaceAll pairs s) : (∃ pair ∈ pairs, c = pair.2) ∨ c ∈ s := by
  induction pairs generalizing s with
  | nil => exact Or.inr h
  | cons pair pairs ih =>
      rcases ih h with ⟨later, member, same⟩ | kept
      · exact Or.inl ⟨later, List.mem_cons_of_mem _ member, same⟩
      · rcases mem_of_mem_replaceEscape kept with same | kept
        · exact Or.inl ⟨pair, List.mem_cons_self, same⟩
        · exact Or.inr kept

theorem length_unescape_le (s : List Char) : (unescape s).length ≤ s.length :=
  length_replaceAll_le escapes s

theorem unescape_eq_self_iff {s : List Char} :
    unescape s = s ↔ ∀ pair ∈ escapes, ¬ ['\\', pair.1] <:+: s := by
  rw [unescape_eq_replaceAll, replaceAll_eq_self_iff]

theorem hash_mem_of_mem_unescape {s : List Char} (h : '#' ∈ unescape s) : '#' ∈ s := by
  rw [unescape_eq_replaceAll] at h
  rcases mem_of_mem_replaceAll h with ⟨pair, member, same⟩ | kept
  · simp only [escapes, List.mem_cons, List.not_mem_nil, or_false] at member
    rcases member with rfl | rfl | rfl | rfl | rfl <;> exact absurd same (by decide)
  · exact kept

end EnvAudit.RawValue
