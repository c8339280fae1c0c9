import EnvAudit.Proofs.EnvFile.Escape

/-!
# Escapes from left to right

Escapes are replaced kind by kind, each kind over the whole text, and not one after the other as they stand there.
The second backslash of an escaped backslash can then be taken for the start of an escape. Main statement:
`unescape_eq_decodeEscapes_iff`, that this happens exactly where an even number of backslashes stands in front of
the letter of an escape.

Both ways treat a text run by run: what they make of a run of backslashes and the character behind it does not
depend on the rest. So they differ as soon as they differ on one run.
-/

namespace EnvAudit.RawValue

/-- Decodes escapes in one pass from left to right. A backslash that starts none of them stays as it is. -/
def decodeEscapes : List Char → List Char
  | '\\' :: c :: rest =>
    match escapes.lookup c with
    | some result => result :: decodeEscapes rest
    | none => '\\' :: c :: decodeEscapes rest
  | c :: rest => c :: decodeEscapes rest
  | [] => []

/-- Backslashes that pair up in front of the letter of an escape, so that none is left for the escape. -/
def IsEvenRun (count : Nat) (letter : Char) : Prop :=
  0 < count ∧ count % 2 = 0 ∧ letter ∈ ['n', 'r', 't', '"']

/-- A text with such a run in it, in front of which there is no further backslash. -/
def HasEvenRun (s : List Char) : Prop :=
  ∃ front count letter back, s = front ++ (List.replicate count '\\' ++ letter :: back) ∧
    front.getLast? ≠ some '\\' ∧ IsEvenRun count letter

/-! ## Runs -/

/-- A text as runs of backslashes, of which any may be empty, with other characters between them. -/
inductive IsRuns : List Char → Prop where
  | last (count : Nat) : IsRuns (List.replicate count '\\')
  | more (count : Nat) {c : Char} {rest : List Char} :
      c ≠ '\\' → IsRuns rest → IsRuns (List.replicate count '\\' ++ c :: rest)

theorem isRuns (s : List Char) : IsRuns s := by
  induction s with
  | nil => exact .last 0
  | cons c s ih =>
      by_cases back : c = '\\'
      · subst back
        cases ih with
        | last count => exact .last (count + 1)
        | more count solid rest => exact .more (count + 1) solid rest
      · exact .more 0 back ih

theorem run_inj {m n : Nat} {c d : Char} {s t : List Char} (hc : c ≠ '\\') (hd : d ≠ '\\')
    (same : List.replicate m '\\' ++ c :: s = List.replicate n '\\' ++ d :: t) : m = n ∧ c = d ∧ s = t := by
  induction m generalizing n with
  | zero =>
      cases n with
      | zero => simpa using same
      | succ n => exact absurd (List.cons.inj same).1 hc
  | succ m ih =>
      cases n with
      | zero => exact absurd (List.cons.inj same).1.symm hd
      | succ n =>
          obtain ⟨rfl, rest⟩ := ih (List.cons.inj same).2
          exact ⟨rfl, rest⟩

/-! ## One escape behind a run -/

section
variable {letter c : Char} (result : Char) (count : Nat) (rest : List Char)

theorem replaceEscape_solid (hc : c ≠ '\\') :
    replaceEscape letter result (c :: rest) = c :: replaceEscape letter result rest := by
  rw [replaceEscape]
  exact fun _ _ back => absurd back hc

theorem replaceEscape_last (hl : letter ≠ '\\') :
    replaceEscape letter result (List.replicate count '\\') = List.replicate count '\\' :=
  replaceEscape_eq_self result fun found => hl (List.eq_of_mem_replicate (found.subset (by simp)))

theorem replaceEscape_hit (hl : letter ≠ '\\') :
    replaceEscape letter result (List.replicate (count + 1) '\\' ++ letter :: rest) =
      List.replicate count '\\' ++ result :: replaceEscape letter result rest := by
  induction count with
  | zero => simp [replaceEscape]
  | succ count ih =>
      rw [List.replicate_succ, List.replicate_succ, List.cons_append, List.cons_append, replaceEscape,
        if_neg (Ne.symm hl), ← List.cons_append, ← List.replicate_succ, ih]
      rfl

theorem replaceEscape_miss (hl : letter ≠ '\\') (hc : c ≠ '\\') (other : c ≠ letter) :
    replaceEscape letter result (List.replicate count '\\' ++ c :: rest) =
      List.replicate count '\\' ++ c :: replaceEscape letter result rest := by
  induction count with
  | zero => exact replaceEscape_solid result rest hc
  | succ count ih =>
      cases count with
      | zero => simp [replaceEscape, other, replaceEscape_solid result rest hc]
      | succ count =>
          rw [List.replicate_succ, List.replicate_succ, List.cons_append, List.cons_append, replaceEscape,
            if_neg (Ne.symm hl), ← List.cons_append, ← List.replicate_succ, ih]
          rfl

end

theorem replaceEscape_halve {c : Char} (hc : c ≠ '\\') (count : Nat) (rest : List Char) :
    replaceEscape '\\' '\\' (List.replicate count '\\' ++ c :: rest) =
      List.replicate ((count + 1) / 2) '\\' ++ c :: replaceEscape '\\' '\\' rest := by
  induction count using Nat.twoStepInduction with
  | zero => exact replaceEscape_solid '\\' rest hc
  | one => simp [replaceEscape, hc, replaceEscape_solid '\\' rest hc]
  | more count ih _ =>
      have half : (count + 2 + 1) / 2 = (count + 1) / 2 + 1 := by omega
      rw [half, List.replicate_succ, List.replicate_succ, List.replicate_succ, List.cons_append, List.cons_append,
        replaceEscape, if_pos rfl, ih]
      rfl

theorem replaceEscape_halve_last (count : Nat) :
    replaceEscape '\\' '\\' (List.replicate count '\\') = List.replicate ((count + 1) / 2) '\\' := by
  induction count using Nat.twoStepInduction with
  | zero => rfl
  | one => rfl
  | more count ih _ =>
      have half : (count + 2 + 1) / 2 = (count + 1) / 2 + 1 := by omega
      rw [half, List.replicate_succ, List.replicate_succ, List.replicate_succ, replaceEscape, if_pos rfl, ih]

/-! ## All escapes behind a run -/

section
variable (count half : Nat) (rest : List Char)

theorem unescape_last : unescape (List.replicate count '\\') = List.replicate ((count + 1) / 2) '\\' := by
  simp only [unescape]
  rw [replaceEscape_last, replaceEscape_last, replaceEscape_last, replaceEscape_halve_last, replaceEscape_last]
  all_goals decide

theorem unescape_solid {c : Char} (hc : c ≠ '\\') : unescape (c :: rest) = c :: unescape rest := by
  simp only [unescape, replaceEscape_solid _ _ hc]

theorem unescape_other {c : Char} (hc : c ≠ '\\') (other : c ∉ ['n', 'r', 't', '"']) :
    unescape (List.replicate count '\\' ++ c :: rest) =
      List.replicate ((count + 1) / 2) '\\' ++ c :: unescape rest := by
  simp only [List.mem_cons, List.not_mem_nil, or_false, not_or] at other
  obtain ⟨n, r, t, quote⟩ := other
  simp only [unescape]
  rw [replaceEscape_miss _ _ _ (by decide) hc n, replaceEscape_miss _ _ _ (by decide) hc r,
    replaceEscape_miss _ _ _ (by decide) hc t, replaceEscape_halve hc,
    replaceEscape_miss _ _ _ (by decide) hc quote]

theorem unescape_letter {letter result : Char} (escape : (letter, result) ∈ [('n', '\n'), ('r', '\r'), ('t', '\t')]) :
    unescape (List.replicate (count + 1) '\\' ++ letter :: rest) =
      List.replicate ((count + 1) / 2) '\\' ++ result :: unescape rest := by
  simp only [unescape]
  simp only [List.mem_cons, List.not_mem_nil, or_false, Prod.mk.injEq] at escape
  rcases escape with ⟨rfl, rfl⟩ | ⟨rfl, rfl⟩ | ⟨rfl, rfl⟩
  · rw [replaceEscape_hit, replaceEscape_miss, replaceEscape_miss, replaceEscape_halve, replaceEscape_miss]
    all_goals decide
  · rw [replaceEscape_miss, replaceEscape_hit, replaceEscape_miss, replaceEscape_halve, replaceEscape_miss]
    all_goals decide
  · rw [replaceEscape_miss, replaceEscape_miss, replaceEscape_hit, replaceEscape_halve, replaceEscape_miss]
    all_goals decide

theorem unescape_quote :
    unescape (List.replicate (count + 1) '\\' ++ '"' :: rest) =
      List.replicate (count / 2) '\\' ++ '"' :: unescape rest := by
  have paired : (count + 1 + 1) / 2 = count / 2 + 1 := by omega
  simp only [unescape]
  rw [replaceEscape_miss, replaceEscape_miss, replaceEscape_miss, replaceEscape_halve, paired, replaceEscape_hit]
  all_goals decide

theorem decodeEscapes_solid {c : Char} (hc : c ≠ '\\') : decodeEscapes (c :: rest) = c :: decodeEscapes rest := by
  rw [decodeEscapes]
  exact fun _ _ back => absurd back hc

theorem decodeEscapes_pairs :
    decodeEscapes (List.replicate (2 * half) '\\' ++ rest) = List.replicate half '\\' ++ decodeEscapes rest := by
  induction half with
  | zero => rfl
  | succ half ih =>
      have twice : 2 * (half + 1) = 2 * half + 1 + 1 := by omega
      rw [twice, List.replicate_succ, List.replicate_succ, List.replicate_succ, List.cons_append, List.cons_append,
        decodeEscapes, ih]
      rfl

theorem decodeEscapes_odd :
    decodeEscapes (List.replicate (2 * half + 1) '\\' ++ rest) =
      List.replicate half '\\' ++ decodeEscapes ('\\' :: rest) := by
  rw [List.replicate_succ', List.append_assoc, List.singleton_append, decodeEscapes_pairs]

theorem decodeEscapes_last : decodeEscapes (List.replicate count '\\') = List.replicate ((count + 1) / 2) '\\' := by
  obtain ⟨half, rfl | rfl⟩ : ∃ half, count = 2 * half ∨ count = 2 * half + 1 := ⟨count / 2, by omega⟩
  · have paired := decodeEscapes_pairs half []
    have same : (2 * half + 1) / 2 = half := by omega
    rw [same]
    simpa [decodeEscapes] using paired
  · have paired := decodeEscapes_odd half []
    have same : (2 * half + 1 + 1) / 2 = half + 1 := by omega
    rw [List.append_nil] at paired
    rw [paired, same, List.replicate_succ']
    rfl

theorem decodeEscapes_other {c : Char} (hc : c ≠ '\\') (other : c ∉ ['n', 'r', 't', '"']) :
    decodeEscapes (List.replicate count '\\' ++ c :: rest) =
      List.replicate ((count + 1) / 2) '\\' ++ c :: decodeEscapes rest := by
  have unknown : escapes.lookup c = none := by
    simp only [List.mem_cons, List.not_mem_nil, or_false, not_or] at other
    simp [escapes, List.lookup_cons, hc, other, beq_eq_false_iff_ne.mpr]
  obtain ⟨half, rfl | rfl⟩ : ∃ half, count = 2 * half ∨ count = 2 * half + 1 := ⟨count / 2, by omega⟩
  · have same : (2 * half + 1) / 2 = half := by omega
    rw [decodeEscapes_pairs, decodeEscapes_solid rest hc, same]
  · have same : (2 * half + 1 + 1) / 2 = half + 1 := by omega
    rw [decodeEscapes_odd, decodeEscapes, unknown, same, List.replicate_succ', List.append_assoc]
    rfl

end

/-! ## Both ways -/

section
variable {c result : Char} (half : Nat) (rest : List Char)

theorem unescape_odd (escape : (c, result) ∈ [('n', '\n'), ('r', '\r'), ('t', '\t'), ('"', '"')]) :
    unescape (List.replicate (2 * half + 1) '\\' ++ c :: rest) =
        List.replicate half '\\' ++ result :: unescape rest ∧
      decodeEscapes (List.replicate (2 * half + 1) '\\' ++ c :: rest) =
        List.replicate half '\\' ++ result :: decodeEscapes rest := by
  have same : (2 * half + 1) / 2 = half := by omega
  have even : 2 * half / 2 = half := by omega
  have known : (c, result) ∈ [('n', '\n'), ('r', '\r'), ('t', '\t')] ∨ c = '"' ∧ result = '"' := by
    simpa [or_assoc] using escape
  have decoded : decodeEscapes ('\\' :: c :: rest) = result :: decodeEscapes rest := by
    simp only [List.mem_cons, List.not_mem_nil, or_false, Prod.mk.injEq] at escape
    rcases escape with ⟨rfl, rfl⟩ | ⟨rfl, rfl⟩ | ⟨rfl, rfl⟩ | ⟨rfl, rfl⟩ <;> rfl
  rw [decodeEscapes_odd, decoded]
  rcases known with letter | ⟨rfl, rfl⟩
  · exact ⟨by rw [unescape_letter _ _ letter, same], rfl⟩
  · exact ⟨by rw [unescape_quote, even], rfl⟩

theorem exists_decoded_run {count : Nat} (hc : c ≠ '\\')
    (clear : ¬ IsEvenRun count c) :
    ∃ decoded, unescape (List.replicate count '\\' ++ c :: rest) = decoded ++ unescape rest ∧
      decodeEscapes (List.replicate count '\\' ++ c :: rest) = decoded ++ decodeEscapes rest := by
  by_cases letter : c ∈ ['n', 'r', 't', '"']
  · have known : ∃ result, (c, result) ∈ [('n', '\n'), ('r', '\r'), ('t', '\t'), ('"', '"')] := by
      simp only [List.mem_cons, List.not_mem_nil, or_false] at letter
      rcases letter with rfl | rfl | rfl | rfl <;> simp
    obtain ⟨result, escape⟩ := known
    obtain rfl | ⟨half, rfl⟩ : count = 0 ∨ ∃ half, count = 2 * half + 1 := by
      rcases Nat.eq_zero_or_pos count with zero | positive
      · exact .inl zero
      · have odd : count % 2 ≠ 0 := fun even => clear ⟨positive, even, letter⟩
        exact .inr ⟨count / 2, by omega⟩
    · exact ⟨[c], unescape_solid rest hc, decodeEscapes_solid rest hc⟩
    · obtain ⟨replaced, scanned⟩ := unescape_odd half rest escape
      exact ⟨List.replicate half '\\' ++ [result], by simp [replaced], by simp [scanned]⟩
  · have replaced := unescape_other count rest hc letter
    have scanned := decodeEscapes_other count rest hc letter
    exact ⟨List.replicate ((count + 1) / 2) '\\' ++ [c], by simp [replaced], by simp [scanned]⟩

/-- Behind an even number of backslashes there is no escape, but it is taken for one. -/
theorem unescape_even_ne (letter : c ∈ ['n', 'r', 't', '"']) :
    unescape (List.replicate (2 * half + 2) '\\' ++ c :: rest) ≠
      decodeEscapes (List.replicate (2 * half + 2) '\\' ++ c :: rest) := by
  have hc : c ≠ '\\' := by
    rintro rfl
    exact absurd letter (by decide)
  have paired : (2 * half + 1 + 1) / 2 = half + 1 := by omega
  have left : (2 * half + 1) / 2 = half := by omega
  have decoded : decodeEscapes (List.replicate (2 * half + 2) '\\' ++ c :: rest) =
      List.replicate half '\\' ++ '\\' :: c :: decodeEscapes rest := by
    rw [← Nat.mul_succ, decodeEscapes_pairs, decodeEscapes_solid rest hc, List.replicate_succ', List.append_assoc]
    rfl
  have known : (∃ result, (c, result) ∈ [('n', '\n'), ('r', '\r'), ('t', '\t')] ∧ result ≠ c) ∨ c = '"' := by
    simp only [List.mem_cons, List.not_mem_nil, or_false] at letter
    rcases letter with rfl | rfl | rfl | rfl <;> simp
  rw [decoded]
  rcases known with ⟨result, escape, other⟩ | rfl
  · rw [unescape_letter _ _ escape, paired, List.replicate_succ', List.append_assoc]
    intro same
    have tails := List.append_cancel_left same
    exact other (List.cons.inj (List.cons.inj tails).2).1
  · rw [unescape_quote, left]
    intro same
    have tails := List.append_cancel_left same
    exact absurd (List.cons.inj tails).1 (by decide)

end

theorem eq_nil_of_getLast? {s : List Char} {count : Nat} (run : s <+: List.replicate count '\\')
    (before : s.getLast? ≠ some '\\') : s = [] := by
  by_contra nonempty
  have last := List.eq_of_mem_replicate (run.subset (List.getLast_mem nonempty))
  exact before (by rw [List.getLast?_eq_some_getLast nonempty, last])

theorem hasEvenRun_run {count : Nat} {c : Char} {rest : List Char} (hc : c ≠ '\\') :
    HasEvenRun (List.replicate count '\\' ++ c :: rest) ↔
      IsEvenRun count c ∨ HasEvenRun rest := by
  constructor
  · rintro ⟨front, count', letter, back, same, before, run⟩
    have solid : letter ≠ '\\' := by
      rintro rfl
      exact absurd run.2.2 (by decide)
    rcases List.append_eq_append_iff.mp same with ⟨behind, rfl, rest'⟩ | ⟨behind, whole, -⟩
    · cases behind with
      | nil =>
          have none : List.replicate 0 '\\' ++ c :: rest = List.replicate count' '\\' ++ letter :: back := rest'
          exact absurd (run_inj hc solid none).1 (Nat.ne_of_lt run.1)
      | cons d front =>
          obtain ⟨rfl, rfl⟩ := List.cons.inj rest'
          refine .inr ⟨front, count', letter, back, rfl, fun last => before ?_, run⟩
          simp [List.getLast?_append, List.getLast?_cons, last]
    · obtain rfl : front = [] := eq_nil_of_getLast? ⟨behind, whole.symm⟩ before
      obtain ⟨rfl, rfl, rfl⟩ := run_inj hc solid same
      exact .inl run
  · rintro (run | ⟨front, count', letter, back, rfl, before, run⟩)
    · exact ⟨[], count, c, rest, rfl, by simp, run⟩
    · refine ⟨List.replicate count '\\' ++ c :: front, count', letter, back, by simp, ?_, run⟩
      cases front with
      | nil => simpa using hc
      | cons d front => simpa [List.getLast?_append, List.getLast?_cons] using before

theorem hasEvenRun_last (count : Nat) : ¬ HasEvenRun (List.replicate count '\\') := by
  rintro ⟨front, count', letter, back, whole, -, -, -, known⟩
  have member : letter ∈ List.replicate count '\\' := by simp [whole]
  rw [List.eq_of_mem_replicate member] at known
  exact absurd known (by decide)

/-- Replacing the escapes kind by kind is decoding them from left to right, unless a run of an even number of
backslashes stands before a letter. -/
theorem unescape_eq_decodeEscapes_iff (s : List Char) : unescape s = decodeEscapes s ↔ ¬ HasEvenRun s := by
  induction isRuns s with
  | last count =>
      rw [unescape_last, decodeEscapes_last]
      exact iff_of_true rfl (hasEvenRun_last count)
  | @more count c rest hc _ ih =>
      rw [hasEvenRun_run hc]
      by_cases run : IsEvenRun count c
      · obtain ⟨positive, even, letter⟩ := run
        obtain ⟨half, rfl⟩ : ∃ half, count = 2 * half + 2 := ⟨count / 2 - 1, by omega⟩
        exact iff_of_false (unescape_even_ne half rest letter) fun clear => clear (.inl ⟨positive, even, letter⟩)
      · obtain ⟨decoded, replaced, scanned⟩ := exists_decoded_run rest hc run
        rw [replaced, scanned, List.append_cancel_left_eq, ih, or_iff_right run]

end EnvAudit.RawValue
