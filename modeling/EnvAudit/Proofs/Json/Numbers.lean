import EnvAudit.Json.Reader
import EnvAudit.Json.Writer
import EnvAudit.Proofs.Text.Split
import Mathlib.Data.List.DropRight

namespace EnvAudit

/-! ## Digits -/

namespace Numeral

theorem isDigit_of_mem_digits {n : Nat} : ∀ c ∈ digits n, c.isDigit = true :=
  fun _ member => Nat.isDigit_of_mem_toDigits (by decide) (by decide) member

theorem ofDigits_digits (n : Nat) : ofDigits (digits n) = n := by
  have value : Nat.ofDigitChars 10 (digits n) 0 = n := Nat.ofDigitChars_ten_toDigits
  simpa only [Nat.ofDigitChars, ofDigits, Nat.mul_comm] using value

theorem exists_digits {n : Nat} (positive : n ≠ 0) : ∃ c rest, digits n = c :: rest ∧ c ≠ '0' := by
  induction n using Nat.strong_induction_on with
  | _ n ih =>
      by_cases small : n < 10
      · exact ⟨n.digitChar, [], Nat.toDigits_of_lt_base small, by simpa using positive⟩
      · obtain ⟨c, rest, front, solid⟩ := ih (n / 10) (by omega) (by omega)
        refine ⟨c, rest ++ [(n % 10).digitChar], ?_, solid⟩
        rw [digits, Nat.toDigits_of_base_le (by decide) (by omega), ← digits, front, List.cons_append]

theorem length_digits_le {n k : Nat} (positive : 0 < k) (short : n < Nat.pow 10 k) : (digits n).length ≤ k :=
  (Nat.length_toDigits_le_iff (by decide) positive).mpr short

end Numeral

namespace Json
open Numeral Binary64

inductive IsWhole : List Char → Prop where
  | zero : IsWhole ['0']
  | solid {c : Char} {rest : List Char} : c ≠ '0' → (∀ d ∈ c :: rest, d.isDigit = true) → IsWhole (c :: rest)

def EndsNumber (s : List Char) : Prop := ∀ c ∈ s.head?, c.isDigit = false ∧ c ∉ ['.', 'e', 'E']

variable {whole fraction exponent digits rest : List Char} {c : Char}

theorem isWhole_digits (n : Nat) : IsWhole (Numeral.digits n) := by
  by_cases positive : n = 0
  · subst positive
    exact .zero
  · obtain ⟨c, rest, shape, solid⟩ := exists_digits positive
    rw [shape]
    exact .solid solid (shape ▸ isDigit_of_mem_digits)

theorem IsWhole.exists_cons (h : IsWhole whole) : ∃ c rest, whole = c :: rest ∧ c.isDigit = true := by
  cases h with
  | zero => exact ⟨'0', [], rfl, rfl⟩
  | solid _ digits => exact ⟨_, _, rfl, digits _ List.mem_cons_self⟩

theorem spanDigits_append (isDigits : ∀ d ∈ digits, d.isDigit = true) (ends : ∀ c ∈ rest.head?, c.isDigit = false) :
    spanDigits (digits ++ rest) = (digits, rest) := by
  rw [spanDigits, Text.takeWhile_append_of_stop isDigits ends, Text.dropWhile_append_of_stop isDigits ends]

theorem spanWhole_append (h : IsWhole whole) (ends : ∀ c ∈ rest.head?, c.isDigit = false) :
    spanWhole (whole ++ rest) = (whole, rest) := by
  cases h with
  | zero => rfl
  | solid solid isDigits =>
      rw [List.cons_append, spanWhole]
      · exact spanDigits_append isDigits ends
      · rintro _ ⟨⟩
        exact solid rfl

/-! ## Whole numbers -/

theorem spanFraction_none (ends : EndsNumber rest) : spanFraction rest = ([], rest) := by
  unfold spanFraction
  split
  next => exact absurd (ends '.' rfl).2 (by decide)
  next => rfl

theorem spanExponent_none (ends : EndsNumber rest) : spanExponent rest = (none, rest) := by
  cases rest with
  | nil => rfl
  | cons c rest =>
      obtain ⟨-, mark⟩ := ends c rfl
      simp only [List.mem_cons, List.not_mem_nil, or_false, not_or] at mark
      simp [spanExponent, mark]

theorem readNumber?_whole {negative : Bool} (h : IsWhole whole) (short : whole.length ≤ maxDigits)
    (ends : EndsNumber rest) :
    readNumber? negative (whole ++ rest) =
      some (.ok (int (if negative then -Int.ofNat (ofDigits whole) else Int.ofNat (ofDigits whole)), rest)) := by
  have spans := spanWhole_append h fun c head => (ends c head).1
  have nonempty : whole.isEmpty = false := by
    obtain ⟨c, tail, rfl, -⟩ := h.exists_cons
    rfl
  simp only [readNumber?, spans, nonempty, spanFraction_none ends, spanExponent_none ends, List.isEmpty_nil,
    Option.isNone_none, Bool.and_self, if_true, if_neg (Nat.not_lt.mpr short), if_neg Bool.false_ne_true]

/-! ## Doubles -/

inductive IsFloatTail : List Char → Prop where
  | point {fraction : List Char} : fraction ≠ [] → (∀ d ∈ fraction, d.isDigit = true) →
      IsFloatTail ('.' :: fraction)
  | exponent {sign : Char} {digits : List Char} : sign ∈ ['+', '-'] → digits ≠ [] →
      (∀ d ∈ digits, d.isDigit = true) → IsFloatTail ('e' :: sign :: digits)
  | both {sign : Char} {fraction digits : List Char} : fraction ≠ [] → (∀ d ∈ fraction, d.isDigit = true) →
      sign ∈ ['+', '-'] → digits ≠ [] → (∀ d ∈ digits, d.isDigit = true) →
      IsFloatTail ('.' :: (fraction ++ 'e' :: sign :: digits))

theorem spanFraction_point (nonempty : fraction ≠ []) (isDigits : ∀ d ∈ fraction, d.isDigit = true)
    (ends : ∀ c ∈ rest.head?, c.isDigit = false) : spanFraction ('.' :: (fraction ++ rest)) = (fraction, rest) := by
  simp [spanFraction, spanDigits_append isDigits ends, nonempty]

def signedExponent (sign : Char) (digits : List Char) : Int :=
  if sign = '-' then -Int.ofNat (ofDigits digits) else Int.ofNat (ofDigits digits)

theorem spanExponent_append {sign : Char} (signed : sign ∈ ['+', '-']) (nonempty : digits ≠ [])
    (isDigits : ∀ d ∈ digits, d.isDigit = true) (ends : ∀ c ∈ rest.head?, c.isDigit = false) :
    spanExponent ('e' :: sign :: (digits ++ rest)) = (some (signedExponent sign digits), rest) := by
  simp only [List.mem_cons, List.not_mem_nil, or_false] at signed
  rcases signed with rfl | rfl <;>
    simp [spanExponent, takeSign, spanDigits_append isDigits ends, nonempty, signedExponent]

theorem IsFloatTail.spans {tail : List Char} (h : IsFloatTail tail) :
    ∃ fraction exponent, (fraction.isEmpty && exponent.isNone) = false ∧ ∀ rest, EndsNumber rest →
      ∃ middle, spanFraction (tail ++ rest) = (fraction, middle) ∧ spanExponent middle = (exponent, rest) := by
  cases h with
  | @point fraction nonempty isDigits =>
      refine ⟨fraction, none, by simp [nonempty], fun rest ends => ⟨rest, ?_, spanExponent_none ends⟩⟩
      exact spanFraction_point nonempty isDigits fun c head => (ends c head).1
  | @exponent sign digits signed nonempty isDigits =>
      refine ⟨[], some (signedExponent sign digits), rfl, fun rest ends => ⟨_, rfl, ?_⟩⟩
      exact spanExponent_append signed nonempty isDigits fun c head => (ends c head).1
  | @both sign fraction digits nonempty isDigits signed nonempty' isDigits' =>
      refine ⟨fraction, some (signedExponent sign digits), by simp, fun rest ends =>
        ⟨'e' :: sign :: (digits ++ rest), ?_, ?_⟩⟩
      · rw [List.cons_append, List.append_assoc]
        exact spanFraction_point nonempty isDigits (by simp)
      · exact spanExponent_append signed nonempty' isDigits' fun c head => (ends c head).1

theorem IsFloatTail.notDigit {tail : List Char} (h : IsFloatTail tail) (rest : List Char) :
    ∀ c ∈ (tail ++ rest).head?, c.isDigit = false := by
  cases h <;> simp

theorem readNumber?_float {tail : List Char} (negative : Bool) (h : IsWhole whole) (isTail : IsFloatTail tail) :
    ∃ x, ∀ rest, EndsNumber rest →
      readNumber? negative (whole ++ (tail ++ rest)) = some (.ok (float x, rest)) := by
  obtain ⟨fraction, exponent, notWhole, spans⟩ := isTail.spans
  have nonempty : whole.isEmpty = false := by
    obtain ⟨c, tail, rfl, -⟩ := h.exists_cons
    rfl
  refine ⟨Notation.value ⟨negative, whole, fraction, exponent.getD 0⟩, fun rest ends => ?_⟩
  obtain ⟨middle, fractional, exponential⟩ := spans rest ends
  simp only [readNumber?, spanWhole_append h (isTail.notDigit rest), nonempty, fractional, exponential, notWhole,
    if_neg Bool.false_ne_true]

/-! ## Written doubles -/

def IsDecimal (s : List Char) : Prop := ∃ whole tail, s = whole ++ tail ∧ IsWhole whole ∧ IsFloatTail tail

theorem isDigit_of_mem_zeros {n : Nat} : ∀ d ∈ List.replicate n '0', d.isDigit = true := by
  intro d member
  rw [List.eq_of_mem_replicate member]
  rfl

theorem isDecimal_positional (solid : c ≠ '0') (isDigits : ∀ d ∈ c :: digits, d.isDigit = true) (power : Int) :
    IsDecimal (positional (c :: digits) power) := by
  unfold positional
  split
  next =>
    refine ⟨['0'], _, rfl, .zero, .point (by simp) ?_⟩
    exact List.forall_mem_append.mpr ⟨isDigit_of_mem_zeros, isDigits⟩
  next above =>
    obtain ⟨n, large⟩ := Nat.exists_eq_succ_of_ne_zero (show power.toNat ≠ 0 by omega)
    dsimp only
    rw [large]
    split
    next =>
      refine ⟨_, _, rfl, .solid solid ?_, .point (by simp) (isDigit_of_mem_zeros (n := 1))⟩
      exact List.forall_mem_append.mpr ⟨isDigits, isDigit_of_mem_zeros⟩
    next more =>
      rw [List.take_succ_cons, List.drop_succ_cons]
      have left : digits.drop n ≠ [] := by
        simp only [List.length_cons] at more
        simp only [ne_eq, List.drop_eq_nil_iff]
        omega
      refine ⟨_, _, rfl, .solid solid fun d member => ?_, .point left fun d member => ?_⟩
      · exact isDigits d (List.cons_subset_cons c (List.take_subset n digits) member)
      · exact isDigits d (List.mem_cons_of_mem c (List.drop_subset n digits member))

theorem isDecimal_scientific (solid : c ≠ '0') (isDigits : ∀ d ∈ c :: digits, d.isDigit = true) (power : Int) :
    IsDecimal (scientific (c :: digits) power) := by
  have first : IsWhole [c] := .solid solid (by simp [isDigits c List.mem_cons_self])
  have signed : (if power < 0 then '-' else '+') ∈ ['+', '-'] := by split <;> decide
  have nonempty : zeroPad 2 (Numeral.digits power.natAbs) ≠ [] := by simp [zeroPad, Numeral.digits, Nat.toDigits_ne_nil]
  have isDigits' : ∀ d ∈ zeroPad 2 (Numeral.digits power.natAbs), d.isDigit = true :=
    List.forall_mem_append.mpr ⟨isDigit_of_mem_zeros, isDigit_of_mem_digits⟩
  cases digits with
  | nil => exact ⟨[c], _, rfl, first, .exponent signed nonempty isDigits'⟩
  | cons d digits =>
      refine ⟨[c], '.' :: (d :: digits ++ 'e' :: _), ?_, first,
        .both (by simp) (fun d member => isDigits d (List.mem_cons_of_mem c member)) signed nonempty isDigits'⟩
      simp [scientific]

theorem exists_dropTrailingZeros (solid : c ≠ '0') (digits : List Char) :
    ∃ front, dropTrailingZeros (c :: digits) = c :: front ∧ c :: front <+: c :: digits := by
  have kept : dropTrailingZeros (c :: digits) = (c :: digits).rdropWhile (· == '0') := rfl
  cases shape : (c :: digits).rdropWhile (· == '0') with
  | nil =>
      have zero := List.rdropWhile_eq_nil_iff.mp shape c List.mem_cons_self
      exact absurd (beq_iff_eq.mp zero) solid
  | cons d front =>
      have isPrefix := List.rdropWhile_prefix (p := (· == '0')) (c :: digits)
      rw [shape] at isPrefix
      obtain rfl := (List.cons_prefix_cons.mp isPrefix).1
      exact ⟨front, kept.trans shape, isPrefix⟩

theorem ne_zero_of_onGrid? {mantissa n : Nat} {exponent power : Int} (positive : mantissa ≠ 0)
    (found : onGrid? mantissa exponent power = some n) : n ≠ 0 := by
  rintro rfl
  have reads : ofDecimal false 0 power = finite false mantissa exponent := by
    unfold onGrid? at found
    dsimp only at found
    split at found
    next reads => exact (Option.some.inj found) ▸ beq_iff_eq.mp reads
    next =>
      split at found
      next reads => exact (Option.some.inj found) ▸ beq_iff_eq.mp reads
      next =>
        split at found
        next reads => exact (Option.some.inj found) ▸ beq_iff_eq.mp reads
        next => cases found
  have zero : finite false 0 (-1074) = finite false mantissa exponent := reads
  cases zero
  exact positive rfl

theorem shortestFrom_cases {mantissa : Nat} (positive : mantissa ≠ 0) (exponent power : Int) (count fuel : Nat) :
    shortestFrom mantissa exponent power count fuel = (0, 0) ∨
      (shortestFrom mantissa exponent power count fuel).1 ≠ 0 := by
  induction fuel generalizing count with
  | zero => exact .inl rfl
  | succ fuel ih =>
      unfold shortestFrom
      dsimp only
      split
      next found => exact .inr (ne_zero_of_onGrid? positive found)
      next => exact ih (count + 1)

theorem shortest_cases {mantissa : Nat} (positive : mantissa ≠ 0) (exponent : Int) :
    shortest mantissa exponent = (0, 0) ∨ (shortest mantissa exponent).1 ≠ 0 :=
  shortestFrom_cases positive exponent _ 1 17

def signOf (negative : Bool) : List Char := if negative then ['-'] else []

theorem exists_writeFloat (negative : Bool) (mantissa : Nat) (exponent : Int) :
    ∃ body, IsDecimal body ∧ writeFloat (.finite negative mantissa exponent) = signOf negative ++ body := by
  have zero : IsDecimal ['0', '.', '0'] :=
    ⟨['0'], ['.', '0'], rfl, .zero, .point (by simp) (isDigit_of_mem_zeros (n := 1))⟩
  have signed (body : List Char) :
      (String.ofList (if negative then '-' :: body else body)).toList = signOf negative ++ body := by
    cases negative <;> simp [signOf]
  by_cases positive : mantissa = 0
  · subst positive
    exact ⟨_, zero, signed _⟩
  · refine ⟨_, ?_, signed _⟩
    rw [if_neg (by simpa using positive)]
    rcases shortest_cases positive exponent with unfound | found
    · rw [unfound]
      exact zero
    · obtain ⟨c, digits, shape, solid⟩ := exists_digits found
      obtain ⟨front, kept, isPrefix⟩ := exists_dropTrailingZeros solid digits
      have isDigits : ∀ d ∈ c :: front, d.isDigit = true :=
        fun d member => isDigit_of_mem_digits d (shape ▸ isPrefix.subset member)
      dsimp only
      rw [shape, kept]
      split
      · exact isDecimal_positional solid isDigits _
      · exact isDecimal_scientific solid isDigits _

/-! ## Reading numbers -/

theorem ne_of_isDigit {c letter : Char} (digit : c.isDigit = true) (other : letter.isDigit = false) : c ≠ letter := by
  rintro rfl
  rw [digit] at other
  cases other

theorem no_word_digit (digit : c.isDigit = true) (rest : List Char) :
    words.findSome? (fun (word, value) => (dropWord? word (c :: rest)).map fun rest => (value, rest)) = none := by
  have ne (letter : Char) (other : letter.isDigit = false) : letter ≠ c := (ne_of_isDigit digit other).symm
  simp [words, dropWord?, ne]

theorem no_word_minus (digit : c.isDigit = true) (rest : List Char) :
    words.findSome? (fun (word, value) => (dropWord? word ('-' :: c :: rest)).map fun rest => (value, rest)) =
      none := by
  have ne (letter : Char) (other : letter.isDigit = false) : letter ≠ c := (ne_of_isDigit digit other).symm
  simp [words, dropWord?, ne]

theorem readAtom_number (negative : Bool) (h : IsWhole whole) {result : Except Stop (Json × List Char)}
    (read : readNumber? negative (whole ++ rest) = some result) :
    readAtom (signOf negative ++ (whole ++ rest)) = result := by
  obtain ⟨c, tail, rfl, digit⟩ := h.exists_cons
  rw [List.cons_append] at read ⊢
  cases negative with
  | false => simp [readAtom, signOf, no_word_digit digit, ne_of_isDigit digit (rfl : '-'.isDigit = false), read]
  | true => simp [readAtom, signOf, no_word_minus digit, read]

theorem fits_int {n : Int} : (int n).fits = true ↔ n.natAbs < Nat.pow 10 maxDigits := by
  rw [fits, decide_eq_true_eq]

theorem render_eq (n : Int) : (Numeral.render n).toList = signOf (n < 0) ++ Numeral.digits n.natAbs := by
  rw [Numeral.render, String.toList_ofList, signOf]
  split <;> simp_all

theorem readAtom_int {n : Int} (short : (int n).fits = true) (ends : EndsNumber rest) :
    readAtom ((Numeral.render n).toList ++ rest) = .ok (int n, rest) := by
  have bound : (Numeral.digits n.natAbs).length ≤ maxDigits := length_digits_le (by decide) (fits_int.mp short)
  have read := readAtom_number (decide (n < 0)) (isWhole_digits n.natAbs)
    (readNumber?_whole (isWhole_digits n.natAbs) bound ends)
  have value : (if (decide (n < 0)) = true then -Int.ofNat n.natAbs else Int.ofNat n.natAbs) = n := by
    simp only [decide_eq_true_eq, Int.ofNat_eq_natCast]
    split <;> omega
  rw [render_eq, List.append_assoc, read, ofDigits_digits, value]

/-- The double that is read where one was written. -/
def rereadFloat (x : Binary64) : Binary64 :=
  match readAtom (writeFloat x) with
  | .ok (float y, _) => y
  | _ => x

theorem readAtom_float (x : Binary64) (ends : EndsNumber rest) :
    readAtom (writeFloat x ++ rest) = .ok (float (rereadFloat x), rest) := by
  have found : ∃ y, ∀ rest, EndsNumber rest → readAtom (writeFloat x ++ rest) = .ok (float y, rest) := by
    cases x with
    | nan => exact ⟨.nan, fun rest _ => rfl⟩
    | infinite negative =>
        cases negative with
        | false => exact ⟨.infinite false, fun rest _ => rfl⟩
        | true => exact ⟨.infinite true, fun rest _ => rfl⟩
    | finite negative mantissa exponent =>
        obtain ⟨_, ⟨whole, tail, rfl, isWhole, isTail⟩, written⟩ := exists_writeFloat negative mantissa exponent
        obtain ⟨y, read⟩ := readNumber?_float negative isWhole isTail
        refine ⟨y, fun rest ends => ?_⟩
        rw [written, List.append_assoc, List.append_assoc]
        exact readAtom_number negative isWhole (read rest ends)
  obtain ⟨y, reads⟩ := found
  have alone := reads [] (by simp [EndsNumber])
  rw [List.append_nil] at alone
  have same : rereadFloat x = y := by rw [rereadFloat, alone]
  rw [same, reads rest ends]

end Json

end EnvAudit
