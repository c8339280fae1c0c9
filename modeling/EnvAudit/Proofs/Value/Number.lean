import EnvAudit.Proofs.Binary64.Notation
import EnvAudit.Proofs.Text.Case
import EnvAudit.Proofs.Text.Trim
import EnvAudit.Value.Number

namespace EnvAudit.Value
open Text
open Binary64 (IsSign IsDecimal Notation)

/-! ## Bases -/

structure Base where
  marks : List Char
  radix : Nat
  digits : List Char

def bases : List Base :=
  [⟨['x', 'X'], 16, "0123456789abcdefABCDEF".toList⟩, ⟨['o', 'O'], 8, "01234567".toList⟩, ⟨['b', 'B'], 2, "01".toList⟩]

inductive IsPrefixed : List Char → Prop
  | intro {sign digits : List Char} {mark : Char} {negative : Bool} {base : Base} : IsSign sign negative →
      base ∈ bases → mark ∈ base.marks → digits ≠ [] → (∀ c ∈ digits, c ∈ base.digits) →
      IsPrefixed (sign ++ '0' :: mark :: digits)

theorem isHexDigit_of_hexValue? {c : Char} (digit : (Numeral.hexValue? c).isSome) : IsHexDigit c := by
  unfold Numeral.hexValue? at digit
  split at digit
  · rename_i decimal
    exact .inl (.inl decimal)
  · split at digit
    · rename_i low
      exact .inl (.inr (by simpa using low))
    · split at digit
      · rename_i high
        exact .inr (by simpa using high)
      · cases digit

theorem ascii_of_isDigitOf {radix : Nat} {c : Char} (digit : isDigitOf radix c = true) : c.toNat < 0x80 := by
  have hex : IsHexDigit c := isHexDigit_of_hexValue? (Option.isSome_of_any digit)
  have := hex.toNat
  omega

theorem forall_bases {P : Char → Prop} [DecidablePred P] {chars : Base → List Char}
    (holds : (bases.all fun base => (chars base).all fun c => decide (P c)) = true) :
    ∀ base ∈ bases, ∀ c ∈ chars base, P c :=
  fun base known => forall_mem_of_all (List.all_eq_true.mp holds base known)

theorem ascii_of_mem_digits : ∀ base ∈ bases, ∀ c ∈ base.digits, c.toNat < 0x80 :=
  forall_bases (by decide +kernel)

theorem isDigitOf_iff {c : Char} : ∀ base ∈ bases, (isDigitOf base.radix c = true ↔ c ∈ base.digits) := by
  intro base known
  by_cases ascii : c.toNat < 0x80
  · exact forall_ascii (P := fun c => ∀ base ∈ bases, (isDigitOf base.radix c = true ↔ c ∈ base.digits))
      (by decide +kernel) ascii base known
  · exact iff_of_false (ascii ∘ ascii_of_isDigitOf) (ascii ∘ ascii_of_mem_digits base known c)

theorem baseOf?_of_mem_marks : ∀ base ∈ bases, ∀ mark ∈ base.marks, baseOf? mark = some base.radix := by
  have holds : ∀ base ∈ bases, (base.marks.all fun mark => decide (baseOf? mark = some base.radix)) = true := by
    decide +kernel
  exact fun base known => forall_mem_of_all (holds base known)

theorem exists_base {mark : Char} {radix : Nat} (found : baseOf? mark = some radix) :
    ∃ base ∈ bases, mark ∈ base.marks ∧ base.radix = radix := by
  unfold baseOf? at found
  split at found
  · rename_i hex
    cases found
    exact ⟨_, .head _, by simpa using hex, rfl⟩
  · split at found
    · rename_i octal
      cases found
      exact ⟨_, .tail _ (.head _), by simpa using octal, rfl⟩
    · split at found
      · rename_i binary
        cases found
        exact ⟨_, .tail _ (.tail _ (.head _)), by simpa using binary, rfl⟩
      · cases found

theorem isBased_iff {s : List Char} : isBased s = true ↔ IsPrefixed s := by
  constructor
  · intro based
    obtain ⟨sign, signed, isSign⟩ := Binary64.exists_sign s
    unfold isBased at based
    split at based
    · rename_i mark digits shape
      split at based
      · rename_i radix found
        obtain ⟨base, known, marked, rfl⟩ := exists_base found
        rw [Bool.and_eq_true, Bool.not_eq_true', List.isEmpty_eq_false_iff, List.all_eq_true] at based
        rw [signed, shape]
        exact .intro isSign known marked based.1 fun c member => (isDigitOf_iff base known).mp (based.2 c member)
      · cases based
    · cases based
  · rintro ⟨isSign, known, marked, nonempty, isDigits⟩
    rename_i digits mark _ base
    have digitsOf : digits.all (isDigitOf base.radix) = true :=
      List.all_eq_true.mpr fun c member => (isDigitOf_iff base known).mpr (isDigits c member)
    have taken : Binary64.takeSign _ = (_, '0' :: mark :: digits) := Binary64.takeSign_append isSign (by simp)
    rw [isBased, taken]
    simp [baseOf?_of_mem_marks base known mark marked, digitsOf, nonempty]

/-! ## Characters -/

theorem plain_of_decimal {c : Char} (h : c.isDigit = true ∨ c ∈ ['+', '-', '.', 'e', 'E']) :
    c ≠ '_' ∧ c.toLower ≠ 'n' ∧ ∀ base ∈ bases, c ∉ base.marks := by
  have ascii : c.toNat < 0x80 := by
    rcases h with digit | other
    · have := IsHexDigit.toNat (.inl (.inl digit))
      omega
    · exact forall_mem_of_all (P := fun c => c.toNat < 0x80) (by decide) c other
  exact forall_ascii (P := fun c => c.isDigit = true ∨ c ∈ ['+', '-', '.', 'e', 'E'] →
    c ≠ '_' ∧ c.toLower ≠ 'n' ∧ ∀ base ∈ bases, c ∉ base.marks) (by decide +kernel) ascii h

theorem IsPrefixed.plain {s : List Char} (h : IsPrefixed s) : ∀ c ∈ s, c ≠ '_' ∧ c.toLower ≠ 'n' := by
  have signs : ∀ c ∈ ['+', '-'], c ≠ '_' ∧ c.toLower ≠ 'n' := forall_mem_of_all (by decide)
  have marks : ∀ base ∈ bases, ∀ c ∈ base.marks, c ≠ '_' ∧ c.toLower ≠ 'n' := forall_bases (by decide +kernel)
  have digits : ∀ base ∈ bases, ∀ c ∈ base.digits, c ≠ '_' ∧ c.toLower ≠ 'n' := forall_bases (by decide +kernel)
  intro c member
  obtain ⟨isSign, base, marked, -, isDigits⟩ := h
  rcases List.mem_append.mp member with signed | zero | ⟨_, mark | ⟨_, digit⟩⟩
  · exact signs c (isSign.subset signed)
  · decide
  · exact marks _ base c marked
  · exact digits _ base c (isDigits c digit)

theorem not_isDecimal_of_isPrefixed {s : List Char} {n : Notation} (h : IsPrefixed s) : ¬IsDecimal s n := by
  intro decimal
  obtain ⟨-, base, marked, -, -⟩ := h
  exact (plain_of_decimal (decimal.chars _ (by simp))).2.2 _ base marked

/-! ## Words -/

def words : List (List Char) := ["inf".toList, "infinity".toList, "nan".toList]

theorem exists_n_of_word {s : List Char} (word : s.map Char.toLower ∈ words) : ∃ c ∈ s, c.toLower = 'n' := by
  have letter : ∀ word ∈ words, 'n' ∈ word := by decide +kernel
  exact List.mem_map.mp (letter _ word)

theorem readWord?_eq_some {s : List Char} {x : Binary64} (read : Binary64.readWord? s = some x) :
    x.isFinite = false ∧ ∃ sign word, s = sign ++ word ∧ word.map Char.toLower ∈ words := by
  obtain ⟨sign, signed, -⟩ := Binary64.exists_sign s
  unfold Binary64.readWord? at read
  dsimp only at read
  generalize Binary64.takeSign s = taken at *
  have same {known : String} (word : (String.ofList (taken.2.map Char.toLower) == known) = true) :
      taken.2.map Char.toLower = known.toList := by
    rw [← beq_iff_eq.mp word, String.toList_ofList]
  split at read
  · rename_i word
    rw [Bool.or_eq_true] at word
    cases read
    refine ⟨rfl, sign, taken.2, signed, ?_⟩
    rcases word with short | long
    · simp [words, same short]
    · simp [words, same long]
  · split at read
    · rename_i word
      cases read
      exact ⟨rfl, sign, taken.2, signed, by simp [words, same word]⟩
    · cases read

theorem readWord?_of_isPrefixed {s : List Char} (h : IsPrefixed s) : Binary64.readWord? s = none := by
  rw [Option.eq_none_iff_forall_ne_some]
  intro x read
  obtain ⟨-, sign, word, rfl, known⟩ := readWord?_eq_some read
  obtain ⟨c, member, letter⟩ := exists_n_of_word known
  exact (h.plain c (List.mem_append_right sign member)).2 letter

/-! ## Texts that are no numbers -/

inductive IsNoNumeral : List Char → Prop
  | empty : IsNoNumeral []
  | underscored {s : List Char} : '_' ∈ s → IsNoNumeral s
  | word {sign word : List Char} {negative : Bool} : IsSign sign negative → word.map Char.toLower ∈ words →
      IsNoNumeral (sign ++ word)
  | bare {sign : List Char} {mark : Char} {negative : Bool} {base : Base} : IsSign sign negative → base ∈ bases →
      mark ∈ base.marks → IsNoNumeral (sign ++ ['0', mark])

theorem not_isNoNumeral_of_isDecimal {s : List Char} {n : Notation} (h : IsDecimal s n) : ¬IsNoNumeral s := by
  intro no
  cases no with
  | empty =>
      have read : none = some n := Notation.read?_eq_some_iff.mpr h
      cases read
  | underscored member => exact (plain_of_decimal (h.chars _ member)).1 rfl
  | word _ known =>
      obtain ⟨c, member, letter⟩ := exists_n_of_word known
      exact (plain_of_decimal (h.chars c (List.mem_append_right _ member))).2.1 letter
  | bare _ base marked => exact (plain_of_decimal (h.chars _ (by simp))).2.2 _ base marked

theorem not_isNoNumeral_of_isPrefixed {s : List Char} (h : IsPrefixed s) : ¬IsNoNumeral s := by
  intro no
  cases no with
  | empty => exact Bool.noConfusion (isBased_iff.mpr h)
  | underscored member => exact (h.plain _ member).1 rfl
  | word _ known =>
      obtain ⟨c, member, letter⟩ := exists_n_of_word known
      exact (h.plain c (List.mem_append_right _ member)).2 letter
  | @bare sign mark negative base isSign known marked =>
      have taken : Binary64.takeSign (sign ++ ['0', mark]) = (negative, ['0', mark]) :=
        Binary64.takeSign_append isSign (by simp)
      have based := isBased_iff.mpr h
      rw [isBased, taken] at based
      simp [baseOf?_of_mem_marks base known mark marked] at based

/-! ## Numbers -/

theorem map_plainNumeral {s : List Char} (ascii : ∀ c ∈ s, c.toNat < 0x80) : s.map plainNumeral = s :=
  (List.map_congr_left fun c member => if_pos (ascii c member)).trans (List.map_id s)

theorem isNumber_eq {value : String} (ascii : ∀ c ∈ value.toList, c.toNat < 0x80) :
    isNumber value = (!(trim value.toList).contains '_' &&
      (Binary64.read? (trim value.toList)).elim (isBased (trim value.toList)) (·.isFinite)) := by
  rw [isNumber, map_plainNumeral fun c member => ascii c (trim_subset _ member)]
  split
  · rename_i underscored
    rw [underscored]
    rfl
  · rename_i plain
    rw [Bool.not_eq_true] at plain
    rw [plain]
    split <;> simp [*]

theorem read?_finite_iff {s : List Char} :
    (Binary64.read? s).elim (isBased s) (·.isFinite) = true ↔
      (∃ n, IsDecimal s n ∧ n.magnitude < Binary64.overflow) ∨ IsPrefixed s := by
  constructor
  · intro number
    rw [Binary64.read?] at number
    split at number
    · rename_i n decimal
      exact .inl ⟨n, Notation.read?_eq_some_iff.mp decimal, Binary64.isFinite_value_iff.mp number⟩
    · -- A word is read as a double as well, but never as a finite one.
      cases word : Binary64.readWord? s with
      | none =>
          rw [word] at number
          exact .inr (isBased_iff.mp number)
      | some x =>
          rw [word, Option.elim_some, (readWord?_eq_some word).1] at number
          cases number
  · rintro (⟨n, decimal, fits⟩ | prefixed)
    · rw [Binary64.read?, Notation.read?_eq_some_iff.mpr decimal]
      exact Binary64.isFinite_value_iff.mpr fits
    · have other : Notation.read? s = none := by
        rw [Option.eq_none_iff_forall_ne_some]
        exact fun n read => not_isDecimal_of_isPrefixed prefixed (Notation.read?_eq_some_iff.mp read)
      rw [Binary64.read?, other, readWord?_of_isPrefixed prefixed]
      exact isBased_iff.mpr prefixed

/-- Numbers are exactly the finite decimal numerals, which are read in one way, and the numerals of any size with their
base in front. -/
theorem isNumber_iff {value : String} (ascii : ∀ c ∈ value.toList, c.toNat < 0x80) :
    (isNumber value = true ↔
      (∃ n, IsDecimal (trim value.toList) n ∧ n.magnitude < 2 ^ 1024 - 2 ^ 970) ∨ IsPrefixed (trim value.toList)) ∧
      (∀ n m, IsDecimal (trim value.toList) n → IsDecimal (trim value.toList) m → n = m) ∧
      (IsNoNumeral (trim value.toList) → isNumber value = false) := by
  have numeral_of (number : isNumber value = true) :
      (∃ n, IsDecimal (trim value.toList) n ∧ n.magnitude < Binary64.overflow) ∨ IsPrefixed (trim value.toList) := by
    rw [isNumber_eq ascii, Bool.and_eq_true] at number
    exact read?_finite_iff.mp number.2
  have plain (numeral : (∃ n, IsDecimal (trim value.toList) n ∧ n.magnitude < Binary64.overflow) ∨
      IsPrefixed (trim value.toList)) : ¬IsNoNumeral (trim value.toList) := by
    rcases numeral with ⟨n, decimal, -⟩ | prefixed
    · exact not_isNoNumeral_of_isDecimal decimal
    · exact not_isNoNumeral_of_isPrefixed prefixed
  refine ⟨⟨numeral_of, fun numeral => ?_⟩, fun n m => IsDecimal.unique, fun no => ?_⟩
  · have clean : (trim value.toList).contains '_' = false := by
      rw [← Bool.not_eq_true, List.contains_iff_mem]
      exact plain numeral ∘ .underscored
    rw [isNumber_eq ascii, clean, read?_finite_iff.mpr numeral]
    rfl
  · rw [← Bool.not_eq_true]
    exact fun number => plain (numeral_of number) no

theorem isNumber_largest :
    let value := " -1.7976931348623158E+308\n"
    (∀ c ∈ value.toList, c.toNat < 0x80) ∧ isNumber value = true ∧
      (∃ n, IsDecimal (trim value.toList) n ∧ n.magnitude < 2 ^ 1024 - 2 ^ 970) ∧
      isNumber "-1.7976931348623159E+308" = false := by
  intro value
  have ascii : ∀ c ∈ value.toList, c.toNat < 0x80 := forall_mem_of_all (by decide +kernel)
  have number : isNumber value = true := by decide +kernel
  have unprefixed : ¬IsPrefixed (trim value.toList) := by
    rw [← isBased_iff]
    decide +kernel
  exact ⟨ascii, number, ((isNumber_iff ascii).1.mp number).resolve_right unprefixed, by decide +kernel⟩

end EnvAudit.Value
