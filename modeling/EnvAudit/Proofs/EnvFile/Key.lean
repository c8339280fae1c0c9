import EnvAudit.EnvFile.Line
import EnvAudit.Proofs.Text.Trim
import EnvAudit.VariableName

namespace EnvAudit
open Text VariableName

theorem isName_iff {s : List Char} :
    isName s = true ↔ ∃ c rest, s = c :: rest ∧ isNameStart c = true ∧ ∀ d ∈ rest, isNameChar d = true := by
  cases s with
  | nil => simp [isName]
  | cons c rest => simp [isName, isStart, isInner, isNameStart, isNameChar]

theorem isNameChar_of_isNameStart {c : Char} (h : isNameStart c = true) : isNameChar c = true := by
  simp only [isNameStart, isNameChar, Char.isAlphanum, Bool.or_eq_true] at h ⊢
  exact h.imp Or.inl id

theorem isNameChar_of_mem {s : List Char} (name : isName s = true) {c : Char} (h : c ∈ s) :
    isNameChar c = true := by
  obtain ⟨first, rest, rfl, start, inner⟩ := isName_iff.mp name
  rcases List.mem_cons.mp h with rfl | h
  · exact isNameChar_of_isNameStart start
  · exact inner c h

theorem toNat_of_isNameChar {c : Char} (h : isNameChar c = true) :
    (48 ≤ c.toNat ∧ c.toNat ≤ 57) ∨ (65 ≤ c.toNat ∧ c.toNat ≤ 90) ∨ c.toNat = 95 ∨
      (97 ≤ c.toNat ∧ c.toNat ≤ 122) := by
  have ranges : (decide (c.val ≥ 65 ∧ c.val ≤ 90) || (c.val ≥ 97 && c.val ≤ 122) ||
      (c.val ≥ 48 && c.val ≤ 57) || c == '_') = true := h
  simp only [Bool.or_eq_true, Bool.and_eq_true, decide_eq_true_eq, beq_iff_eq, ge_iff_le,
    UInt32.le_iff_toNat_le] at ranges
  rcases ranges with ((upper | lower) | digit) | rfl
  · exact Or.inr (Or.inl upper)
  · exact Or.inr (Or.inr (Or.inr lower))
  · exact Or.inl digit
  · exact Or.inr (Or.inr (Or.inl rfl))

theorem isBlank_of_isNameChar {c : Char} (h : isNameChar c = true) : isBlank c = false := by
  have code := toNat_of_isNameChar h
  simp only [isBlank, Bool.or_eq_false_iff, Bool.and_eq_false_iff, decide_eq_false_iff_not,
    beq_eq_false_iff_ne]
  omega

theorem isNameChar_of_isBlank {c : Char} (h : isBlank c = true) : isNameChar c = false := by
  by_contra name
  rw [isBlank_of_isNameChar (by simpa using name)] at h
  exact absurd h (by simp)

/-- A text that starts with a name, blanks and an equality sign. -/
def StartsAssignment (s : List Char) : Prop :=
  ∃ key blanks rest, s = key ++ (blanks ++ '=' :: rest) ∧ isName key = true ∧
    ∀ c ∈ blanks, isBlank c = true

theorem takeWhile_key {key blanks : List Char} (name : isName key = true)
    (blank : ∀ c ∈ blanks, isBlank c = true) (rest : List Char) :
    (key ++ (blanks ++ '=' :: rest)).takeWhile isNameChar = key := by
  rw [List.takeWhile_append_of_pos fun c hc => isNameChar_of_mem name hc]
  cases blanks with
  | nil => simp [isNameChar]
  | cons c blanks => simp [isNameChar_of_isBlank (blank c (by simp))]

theorem dropWhile_key {key blanks : List Char} (name : isName key = true)
    (blank : ∀ c ∈ blanks, isBlank c = true) (rest : List Char) :
    (key ++ (blanks ++ '=' :: rest)).dropWhile isNameChar = blanks ++ '=' :: rest := by
  rw [List.dropWhile_append_of_pos fun c hc => isNameChar_of_mem name hc]
  cases blanks with
  | nil => simp [isNameChar]
  | cons c blanks => simp [isNameChar_of_isBlank (blank c (by simp))]

theorem splitAssignment?_append {key blanks rest : List Char} (name : isName key = true)
    (blank : ∀ c ∈ blanks, isBlank c = true) :
    splitAssignment? (key ++ (blanks ++ '=' :: rest)) =
      if '\n' ∈ trimStart rest then none else some (key, trimStart rest) := by
  obtain ⟨c, inner, rfl, start, -⟩ := isName_iff.mp name
  have sign : trimStart (blanks ++ '=' :: rest) = '=' :: rest := by
    rw [trimStart_append_of_blank blank, trimStart_cons rfl]
  have tail := dropWhile_key name blank rest
  have front := takeWhile_key name blank rest
  rw [List.cons_append] at tail front ⊢
  simp only [splitAssignment?, start, tail, front, sign, List.contains_eq_mem, decide_eq_true_eq,
    if_true]

theorem isName_takeWhile {c : Char} (start : isNameStart c = true) (s : List Char) :
    isName ((c :: s).takeWhile isNameChar) = true := by
  rw [List.takeWhile_cons_of_pos (isNameChar_of_isNameStart start)]
  exact isName_iff.mpr ⟨c, _, rfl, start, fun d hd => List.mem_takeWhile_imp hd⟩

theorem splitAssignment?_eq_some {s key value : List Char} (h : splitAssignment? s = some (key, value)) :
    ∃ blanks rest, s = key ++ (blanks ++ '=' :: rest) ∧ isName key = true ∧
      (∀ c ∈ blanks, isBlank c = true) ∧ value = trimStart rest ∧ '\n' ∉ value := by
  unfold splitAssignment? at h
  split at h
  · cases h
  · rename_i c t
    split at h
    · rename_i start
      split at h
      · rename_i rest sign
        simp only [List.contains_eq_mem, decide_eq_true_eq] at h
        split at h
        · cases h
        · rename_i clean
          obtain ⟨rfl, rfl⟩ := Prod.mk.inj (Option.some.inj h)
          refine ⟨((c :: t).dropWhile isNameChar).takeWhile isBlank, rest, ?_,
            isName_takeWhile start t, fun d hd => List.mem_takeWhile_imp hd, rfl, clean⟩
          rw [← sign, trimStart, List.takeWhile_append_dropWhile, List.takeWhile_append_dropWhile]
      · cases h
    · cases h

theorem isSome_splitAssignment?_iff {s : List Char} (clean : '\n' ∉ s) :
    (splitAssignment? s).isSome = true ↔ StartsAssignment s := by
  constructor
  · intro h
    obtain ⟨⟨key, value⟩, found⟩ := Option.isSome_iff_exists.mp h
    obtain ⟨blanks, rest, shape, name, blank, -, -⟩ := splitAssignment?_eq_some found
    exact ⟨key, blanks, rest, shape, name, blank⟩
  · rintro ⟨key, blanks, rest, rfl, name, blank⟩
    have value : '\n' ∉ trimStart rest := fun h => clean (by simp [trimStart_subset _ h])
    rw [splitAssignment?_append name blank, if_neg value]
    rfl

theorem startsAssignment_iff {s : List Char} :
    StartsAssignment s ↔ s.head?.any isNameStart = true ∧ (trimStart (s.dropWhile isNameChar)).head? = some '=' := by
  constructor
  · rintro ⟨key, blanks, rest, rfl, name, blank⟩
    rw [dropWhile_key name blank rest, trimStart_append_of_blank blank, trimStart_cons rfl]
    obtain ⟨c, inner, rfl, start, -⟩ := isName_iff.mp name
    exact ⟨start, rfl⟩
  · rintro ⟨start, sign⟩
    obtain ⟨rest, sign⟩ := List.head?_eq_some_iff.mp sign
    cases s with
    | nil => cases start
    | cons c t =>
        refine ⟨(c :: t).takeWhile isNameChar, ((c :: t).dropWhile isNameChar).takeWhile isBlank, rest, ?_,
          isName_takeWhile start t, fun d member => List.mem_takeWhile_imp member⟩
        rw [← sign, trimStart, List.takeWhile_append_dropWhile, List.takeWhile_append_dropWhile]

instance : DecidablePred StartsAssignment := fun _ => decidable_of_iff _ startsAssignment_iff.symm

namespace Line

theorem read_of_blank {raw : List Char} (blank : trim raw = []) : read raw = .blank := by
  unfold read
  rw [blank]

theorem read_of_solid {raw : List Char} (solid : trim raw ≠ []) (noComment : (trim raw).head? ≠ some '#') :
    read raw = readAssignment (trim raw) := by
  unfold read
  split
  · rename_i empty
    exact absurd empty solid
  · rename_i comment
    rw [comment] at noComment
    exact absurd rfl noComment
  · rfl

theorem read_of_comment {raw : List Char} (comment : (trim raw).head? = some '#') :
    read raw = .comment (trim ((trim raw).drop 1)) := by
  obtain ⟨rest, shape⟩ := List.head?_eq_some_iff.mp comment
  unfold read
  rw [shape]
  rfl

theorem trim_assignment {key : List Char} (name : isName key = true) (s : List Char) :
    trim (key ++ '=' :: s) = key ++ '=' :: trimEnd s := by
  obtain ⟨c, rest, rfl, start, -⟩ := isName_iff.mp name
  have solid := isBlank_of_isNameChar (isNameChar_of_isNameStart start)
  rw [trim, List.cons_append, trimStart_cons solid, ← List.cons_append, trimEnd_append_cons rfl]

theorem splitAssignment?_trim {key s : List Char} (name : isName key = true) (clean : '\n' ∉ s) :
    splitAssignment? (trim (key ++ '=' :: s)) = some (key, trim s) := by
  have value : '\n' ∉ trimStart (trimEnd s) :=
    fun h => clean (trimEnd_subset _ (trimStart_subset _ h))
  have split : splitAssignment? (key ++ ([] ++ '=' :: trimEnd s)) = _ :=
    splitAssignment?_append name (by simp)
  rw [List.nil_append, if_neg value, trimStart_trimEnd] at split
  rw [trim_assignment name, split]

theorem read_assignment {key s : List Char} (name : isName key = true) (clean : '\n' ∉ s) :
    read (key ++ '=' :: s) = .assignment key (RawValue.read (trim s)) := by
  have shape := trim_assignment name s
  rw [read_of_solid, readAssignment, splitAssignment?_trim name clean]
  · rw [shape]
    simp
  · obtain ⟨c, rest, rfl, start, -⟩ := isName_iff.mp name
    rw [shape]
    simp only [List.cons_append, List.head?_cons, ne_eq, Option.some.injEq]
    rintro rfl
    exact absurd start (by decide)

end Line

end EnvAudit
