import EnvAudit.Text.Blank
import Mathlib.Data.List.DropRight

namespace EnvAudit.Text

theorem trimEnd_eq_rdropWhile (s : List Char) : trimEnd s = s.rdropWhile isBlank := rfl

theorem trimStart_cons {c : Char} (solid : isBlank c = false) (s : List Char) :
    trimStart (c :: s) = c :: s := by
  simp [trimStart, solid]

theorem trimEnd_concat {c : Char} (solid : isBlank c = false) (s : List Char) :
    trimEnd (s ++ [c]) = s ++ [c] := by
  rw [trimEnd_eq_rdropWhile, List.rdropWhile_concat_neg]
  simp [solid]

theorem trimEnd_concat_blank {c : Char} (blank : isBlank c = true) (s : List Char) :
    trimEnd (s ++ [c]) = trimEnd s := by
  rw [trimEnd_eq_rdropWhile, List.rdropWhile_concat_pos _ _ _ blank, trimEnd_eq_rdropWhile]

theorem trimEnd_append_cons {c : Char} (solid : isBlank c = false) (s t : List Char) :
    trimEnd (s ++ c :: t) = s ++ c :: trimEnd t := by
  induction t using List.reverseRecOn with
  | nil => exact trimEnd_concat solid s
  | append_singleton t d ih =>
      have shape : s ++ c :: (t ++ [d]) = (s ++ c :: t) ++ [d] := by simp
      rw [shape]
      by_cases blank : isBlank d = true
      · rw [trimEnd_concat_blank blank, trimEnd_concat_blank blank, ih]
      · rw [Bool.not_eq_true] at blank
        rw [trimEnd_concat blank, trimEnd_concat blank]
        simp

theorem trimStart_eq_nil_iff (s : List Char) : trimStart s = [] ↔ ∀ c ∈ s, isBlank c = true :=
  List.dropWhile_eq_nil_iff

theorem trimEnd_eq_nil_iff (s : List Char) : trimEnd s = [] ↔ ∀ c ∈ s, isBlank c = true :=
  List.rdropWhile_eq_nil_iff

theorem trimStart_append_of_blank {s : List Char} (blank : ∀ c ∈ s, isBlank c = true) (t : List Char) :
    trimStart (s ++ t) = trimStart t := by
  rw [trimStart, List.dropWhile_append_of_pos blank, trimStart]

theorem blank_or_solid (s : List Char) :
    (∀ c ∈ s, isBlank c = true) ∨
      ∃ blanks c rest, s = blanks ++ c :: rest ∧ (∀ b ∈ blanks, isBlank b = true) ∧
        isBlank c = false := by
  induction s with
  | nil => exact Or.inl (by simp)
  | cons d s ih =>
      by_cases blank : isBlank d = true
      · rcases ih with all | ⟨blanks, c, rest, rfl, all, solid⟩
        · exact Or.inl (by simpa [blank] using all)
        · exact Or.inr ⟨d :: blanks, c, rest, rfl, by simpa [blank] using all, solid⟩
      · exact Or.inr ⟨[], d, s, rfl, by simp, by simpa using blank⟩

theorem trimStart_trimEnd (s : List Char) : trimStart (trimEnd s) = trim s := by
  unfold trim
  rcases blank_or_solid s with all | ⟨blanks, c, rest, rfl, all, solid⟩
  · rw [(trimEnd_eq_nil_iff s).mpr all, (trimStart_eq_nil_iff s).mpr all]
    rfl
  · rw [trimEnd_append_cons solid, trimStart_append_of_blank all, trimStart_append_of_blank all,
      trimStart_cons solid, trimStart_cons solid]
    exact (trimEnd_append_cons solid [] rest).symm

theorem trimStart_trimStart (s : List Char) : trimStart (trimStart s) = trimStart s :=
  List.dropWhile_idempotent _ _

theorem trimEnd_trimEnd (s : List Char) : trimEnd (trimEnd s) = trimEnd s :=
  List.rdropWhile_idempotent _ _

@[simp] theorem trim_trim (s : List Char) : trim (trim s) = trim s := by
  have start : trimStart (trim s) = trim s := by
    rw [← trimStart_trimEnd, trimStart_trimStart]
  calc
    trim (trim s) = trimEnd (trim s) := by rw [trim, start]
    _ = trim s := by rw [trim, trimEnd_trimEnd]

theorem trim_concat_blank {c : Char} (blank : isBlank c = true) (s : List Char) :
    trim (s ++ [c]) = trim s := by
  rw [← trimStart_trimEnd, trimEnd_concat_blank blank, trimStart_trimEnd]

theorem trimStart_subset (s : List Char) : trimStart s ⊆ s := (List.dropWhile_suffix _).subset

theorem trimEnd_subset (s : List Char) : trimEnd s ⊆ s := (List.rdropWhile_prefix _ _).subset

theorem trim_subset (s : List Char) : trim s ⊆ s :=
  List.Subset.trans (trimEnd_subset _) (trimStart_subset _)

theorem trimEnd_eq_self_of_trim {s : List Char} (trimmed : trim s = s) : trimEnd s = s := by
  rw [← trimmed, trim, trimEnd_trimEnd]

theorem trimStart_eq_self_of_trim {s : List Char} (trimmed : trim s = s) : trimStart s = s := by
  rw [← trimmed, ← trimStart_trimEnd, trimStart_trimStart]

theorem trimEnd_append {t : List Char} (trimmed : trimEnd t = t) (nonempty : t ≠ []) (s : List Char) :
    trimEnd (s ++ t) = s ++ t := by
  obtain ⟨front, last, rfl⟩ := (List.eq_nil_or_concat' t).resolve_left nonempty
  have solid : isBlank last = false := by
    by_contra blank
    rw [trimEnd_concat_blank (by simpa using blank)] at trimmed
    have shorter := (List.rdropWhile_prefix isBlank front).length_le
    rw [← trimEnd_eq_rdropWhile, trimmed, List.length_append, List.length_singleton] at shorter
    omega
  rw [← List.append_assoc, trimEnd_concat solid]

theorem solid_of_trimStart {c : Char} {s : List Char} (trimmed : trimStart (c :: s) = c :: s) :
    isBlank c = false := by
  by_contra blank
  have shorter := (List.dropWhile_suffix (l := s) isBlank).length_le
  rw [trimStart, List.dropWhile_cons_of_pos (by simpa using blank)] at trimmed
  rw [trimmed, List.length_cons] at shorter
  omega

theorem trimStart_append {s : List Char} (trimmed : trimStart s = s) (nonempty : s ≠ []) (t : List Char) :
    trimStart (s ++ t) = s ++ t := by
  obtain ⟨c, s, rfl⟩ := List.exists_cons_of_ne_nil nonempty
  rw [List.cons_append, trimStart_cons (solid_of_trimStart trimmed)]

theorem trimStart_of_append {s t : List Char} (trimmed : trimStart (s ++ t) = s ++ t) : trimStart s = s := by
  cases s with
  | nil => rfl
  | cons c s => exact trimStart_cons (solid_of_trimStart trimmed) s

theorem trim_append_of_blank {t : List Char} (blank : ∀ c ∈ t, isBlank c = true) (s : List Char) :
    trim (s ++ t) = trim s := by
  induction t using List.reverseRecOn with
  | nil => rw [List.append_nil]
  | append_singleton t c ih =>
      rw [← List.append_assoc, trim_concat_blank (blank c (by simp)), ih fun d hd => blank d (by simp [hd])]

theorem exists_trimEnd (s : List Char) : ∃ blanks, s = trimEnd s ++ blanks ∧ ∀ c ∈ blanks, isBlank c = true :=
  ⟨s.rtakeWhile isBlank, (List.rdropWhile_append_rtakeWhile).symm, fun _ member => List.mem_rtakeWhile_imp member⟩

theorem exists_trimStart (s : List Char) :
    ∃ blanks, s = blanks ++ trimStart s ∧ ∀ c ∈ blanks, isBlank c = true :=
  ⟨s.takeWhile isBlank, List.takeWhile_append_dropWhile.symm, fun _ member => List.mem_takeWhile_imp member⟩

theorem trim_wrapped {c d : Char} (first : isBlank c = false) (last : isBlank d = false) (s : List Char) :
    trim (c :: (s ++ [d])) = c :: (s ++ [d]) := by
  rw [trim, trimStart_cons first, ← List.cons_append, trimEnd_concat last]

end EnvAudit.Text
