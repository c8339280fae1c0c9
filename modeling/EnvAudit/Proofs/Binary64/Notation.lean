import EnvAudit.Proofs.Binary64.Overflow
import EnvAudit.Proofs.Json.Numbers

namespace EnvAudit.Binary64
open Numeral

/-! ## Grammar -/

inductive IsSign : List Char → Bool → Prop
  | none : IsSign [] false
  | plus : IsSign ['+'] false
  | minus : IsSign ['-'] true

/-- Digits with a point, which may be missing behind digits: the digits before and behind it. -/
inductive IsMantissa : List Char → List Char → List Char → Prop
  | whole {whole : List Char} : whole ≠ [] → (∀ c ∈ whole, c.isDigit = true) → IsMantissa whole whole []
  | pointed {whole fraction : List Char} : whole ≠ [] → (∀ c ∈ whole, c.isDigit = true) →
      (∀ c ∈ fraction, c.isDigit = true) → IsMantissa (whole ++ '.' :: fraction) whole fraction
  | leading {fraction : List Char} : fraction ≠ [] → (∀ c ∈ fraction, c.isDigit = true) →
      IsMantissa ('.' :: fraction) [] fraction

inductive IsExponent : List Char → Int → Prop
  | none : IsExponent [] 0
  | marked {mark : Char} {sign digits : List Char} {negative : Bool} : mark = 'e' ∨ mark = 'E' → IsSign sign negative →
      digits ≠ [] → (∀ c ∈ digits, c.isDigit = true) →
      IsExponent (mark :: (sign ++ digits))
        (if negative then -Int.ofNat (ofDigits digits) else Int.ofNat (ofDigits digits))

inductive IsDecimal : List Char → Notation → Prop
  | intro {sign mantissa exponent : List Char} {n : Notation} : IsSign sign n.negative →
      IsMantissa mantissa n.whole n.fraction → IsExponent exponent n.exponent →
      IsDecimal (sign ++ (mantissa ++ exponent)) n

def Notation.magnitude (n : Notation) : ℚ := ofDigits (n.whole ++ n.fraction) * 10 ^ (n.exponent - n.fraction.length)

theorem isFinite_value_iff {n : Notation} : n.value.isFinite = true ↔ n.magnitude < overflow :=
  isFinite_ofDecimal_iff

/-! ## Reading -/

section
variable {s sign mantissa exponent whole fraction rest : List Char} {negative : Bool}

theorem takeSign_append (isSign : IsSign sign negative) (ends : ∀ c ∈ rest.head?, c ≠ '+' ∧ c ≠ '-') :
    takeSign (sign ++ rest) = (negative, rest) := by
  cases isSign with
  | none =>
      cases rest with
      | nil => rfl
      | cons c rest =>
          obtain ⟨plus, minus⟩ := ends c rfl
          simp [takeSign, plus, minus]
  | plus => rfl
  | minus => rfl

theorem exists_sign (s : List Char) : ∃ sign, s = sign ++ (takeSign s).2 ∧ IsSign sign (takeSign s).1 := by
  unfold takeSign
  split
  · exact ⟨_, rfl, .minus⟩
  · exact ⟨_, rfl, .plus⟩
  · exact ⟨[], rfl, .none⟩

theorem ne_sign_of_isDigit {c : Char} (digit : c.isDigit = true) : c ≠ '+' ∧ c ≠ '-' := by
  constructor <;> rintro rfl <;> cases digit

theorem spanDigits_spec (s : List Char) :
    s = (spanDigits s).1 ++ (spanDigits s).2 ∧ ∀ c ∈ (spanDigits s).1, c.isDigit = true :=
  ⟨List.takeWhile_append_dropWhile.symm, fun _ member => List.mem_takeWhile_imp member⟩

theorem readExponent?_eq_some_iff {e : Int} : readExponent? s = some e ↔ IsExponent s e := by
  constructor
  · intro read
    unfold readExponent? at read
    split at read
    · cases read
      exact .none
    · rename_i mark rest
      split at read
      · rename_i marked
        rw [Bool.or_eq_true, beq_iff_eq, beq_iff_eq] at marked
        obtain ⟨sign, signed, isSign⟩ := exists_sign rest
        generalize takeSign rest = taken at *
        obtain ⟨spanned, isDigits⟩ := spanDigits_spec taken.2
        dsimp only at read
        generalize spanDigits taken.2 = span at *
        split at read
        · cases read
        · rename_i whole
          rw [Bool.or_eq_true, List.isEmpty_iff, Bool.not_eq_true', List.isEmpty_eq_false_iff, not_or, not_not] at whole
          cases read
          rw [signed, spanned, whole.2, List.append_nil]
          exact .marked marked isSign whole.1 isDigits
      · cases read
  · rintro (_ | @⟨mark, sign, digits, negative, isMark, isSign, nonempty, isDigits⟩)
    · rfl
    · have spans : spanDigits (digits ++ []) = (digits, []) := Json.spanDigits_append isDigits (by simp)
      rw [List.append_nil] at spans
      have marked : (mark == 'e' || mark == 'E') = true := by simpa using isMark
      have ends : ∀ c ∈ digits.head?, c ≠ '+' ∧ c ≠ '-' := fun c head =>
        ne_sign_of_isDigit (isDigits c (List.mem_of_mem_head? head))
      rw [readExponent?, if_pos marked, takeSign_append isSign ends]
      simp [spans, nonempty]

def spanPoint : List Char → List Char × List Char
  | '.' :: rest => spanDigits rest
  | rest => ([], rest)

theorem span_append_mantissa (h : IsMantissa mantissa whole fraction)
    (ends : ∀ c ∈ rest.head?, c.isDigit = false ∧ c ≠ '.') :
    (spanDigits (mantissa ++ rest)).1 = whole ∧ spanPoint (spanDigits (mantissa ++ rest)).2 = (fraction, rest) := by
  have stops : ∀ c ∈ rest.head?, c.isDigit = false := fun c head => (ends c head).1
  have point (behind : List Char) : ∀ c ∈ ('.' :: behind).head?, c.isDigit = false := by
    rintro _ ⟨⟩
    rfl
  cases h with
  | whole _ isDigits =>
      rw [Json.spanDigits_append isDigits stops]
      refine ⟨rfl, ?_⟩
      cases rest with
      | nil => rfl
      | cons c rest => simp [spanPoint, (ends c rfl).2]
  | pointed _ isWhole isFraction =>
      rw [List.append_assoc, List.cons_append, Json.spanDigits_append isWhole (point _)]
      exact ⟨rfl, Json.spanDigits_append isFraction stops⟩
  | leading _ isFraction =>
      rw [List.cons_append]
      exact ⟨rfl, Json.spanDigits_append isFraction stops⟩

theorem spanPoint_of_ne (bare : ∀ tail, s ≠ '.' :: tail) : spanPoint s = ([], s) := by
  unfold spanPoint
  split
  · exact absurd rfl (bare _)
  · rfl

theorem exists_mantissa (s : List Char) (nonempty : ¬((spanDigits s).1 = [] ∧ (spanPoint (spanDigits s).2).1 = [])) :
    ∃ mantissa, s = mantissa ++ (spanPoint (spanDigits s).2).2 ∧
      IsMantissa mantissa (spanDigits s).1 (spanPoint (spanDigits s).2).1 := by
  obtain ⟨split, isWhole⟩ := spanDigits_spec s
  generalize spanDigits s = front at *
  obtain ⟨whole, behind⟩ := front
  subst split
  -- The cases of the grammar: a point with or without digits in front, or digits alone.
  by_cases pointed : ∃ tail, behind = '.' :: tail
  · obtain ⟨tail, rfl⟩ := pointed
    obtain ⟨split, isFraction⟩ := spanDigits_spec tail
    have span : spanPoint ('.' :: tail) = spanDigits tail := rfl
    rw [span] at nonempty ⊢
    generalize spanDigits tail = behind at *
    subst split
    by_cases empty : whole = []
    · subst empty
      exact ⟨'.' :: behind.1, rfl, .leading (fun none => nonempty ⟨rfl, none⟩) isFraction⟩
    · exact ⟨whole ++ '.' :: behind.1, by simp, .pointed empty isWhole isFraction⟩
  · rw [spanPoint_of_ne (not_exists.mp pointed)] at nonempty ⊢
    exact ⟨whole, rfl, .whole (fun none => nonempty ⟨none, rfl⟩) isWhole⟩

theorem IsMantissa.ends (h : IsMantissa mantissa whole fraction) :
    ∀ c ∈ (mantissa ++ rest).head?, c ≠ '+' ∧ c ≠ '-' := by
  intro c head
  cases h with
  | whole nonempty isDigits =>
      rw [List.head?_append_of_ne_nil _ nonempty] at head
      exact ne_sign_of_isDigit (isDigits c (List.mem_of_mem_head? head))
  | pointed nonempty isDigits _ =>
      rw [List.append_assoc, List.head?_append_of_ne_nil _ nonempty] at head
      exact ne_sign_of_isDigit (isDigits c (List.mem_of_mem_head? head))
  | leading _ _ =>
      cases head
      decide

theorem IsMantissa.nonempty (h : IsMantissa mantissa whole fraction) : ¬(whole.isEmpty && fraction.isEmpty) = true := by
  rw [Bool.and_eq_true, List.isEmpty_iff, List.isEmpty_iff]
  cases h with
  | whole nonempty _ => exact fun none => nonempty none.1
  | pointed nonempty _ _ => exact fun none => nonempty none.1
  | leading nonempty _ => exact fun none => nonempty none.2

theorem IsExponent.ends {e : Int} (h : IsExponent s e) : ∀ c ∈ s.head?, c.isDigit = false ∧ c ≠ '.' := by
  rintro c head
  cases h with
  | none => cases head
  | marked isMark _ _ _ =>
      cases head
      rcases isMark with rfl | rfl <;> decide

theorem Notation.read?_eq (s : List Char) :
    Notation.read? s =
      if (spanDigits (takeSign s).2).1.isEmpty && (spanPoint (spanDigits (takeSign s).2).2).1.isEmpty then none
      else (readExponent? (spanPoint (spanDigits (takeSign s).2).2).2).map fun exponent =>
        ⟨(takeSign s).1, (spanDigits (takeSign s).2).1, (spanPoint (spanDigits (takeSign s).2).2).1, exponent⟩ := by
  unfold Notation.read?
  dsimp only
  split
  · rename_i found
    rw [found]
    rfl
  · rename_i bare
    rw [spanPoint_of_ne bare]

theorem Notation.read?_eq_some_iff {n : Notation} : Notation.read? s = some n ↔ IsDecimal s n := by
  rw [Notation.read?_eq]
  constructor
  · intro read
    obtain ⟨sign, signed, isSign⟩ := exists_sign s
    split at read
    · cases read
    · rename_i nonempty
      rw [Bool.and_eq_true, List.isEmpty_iff, List.isEmpty_iff] at nonempty
      obtain ⟨mantissa, split, isMantissa⟩ := exists_mantissa (takeSign s).2 nonempty
      obtain ⟨e, exponent, rfl⟩ := Option.map_eq_some_iff.mp read
      have decimal := IsDecimal.intro (n := ⟨_, _, _, e⟩) isSign isMantissa (readExponent?_eq_some_iff.mp exponent)
      rwa [← split, ← signed] at decimal
  · rintro ⟨isSign, isMantissa, isExponent⟩
    obtain ⟨whole, point⟩ := span_append_mantissa isMantissa isExponent.ends
    rw [takeSign_append isSign isMantissa.ends, whole, point, readExponent?_eq_some_iff.mpr isExponent]
    rw [if_neg isMantissa.nonempty]
    rfl

theorem IsDecimal.unique {n m : Notation} (hn : IsDecimal s n) (hm : IsDecimal s m) : n = m := by
  have read := Notation.read?_eq_some_iff.mpr hn
  rw [Notation.read?_eq_some_iff.mpr hm] at read
  exact (Option.some.inj read).symm

/-! ## Characters -/

theorem IsSign.subset (h : IsSign sign negative) : sign ⊆ ['+', '-'] := by
  cases h <;> simp

theorem IsMantissa.chars (h : IsMantissa mantissa whole fraction) : ∀ c ∈ mantissa, c.isDigit = true ∨ c = '.' := by
  intro c member
  cases h with
  | whole _ isDigits => exact .inl (isDigits c member)
  | pointed _ isWhole isFraction =>
      rcases List.mem_append.mp member with front | point | ⟨_, behind⟩
      · exact .inl (isWhole c front)
      · exact .inr rfl
      · exact .inl (isFraction c behind)
  | leading _ isFraction =>
      rcases member with _ | ⟨_, behind⟩
      · exact .inr rfl
      · exact .inl (isFraction c behind)

theorem IsExponent.chars {e : Int} (h : IsExponent s e) : ∀ c ∈ s, c.isDigit = true ∨ c ∈ ['+', '-', 'e', 'E'] := by
  intro c member
  cases h with
  | none => cases member
  | marked isMark isSign _ isDigits =>
      rcases List.mem_cons.mp member with rfl | behind
      · exact .inr (by rcases isMark with rfl | rfl <;> decide)
      · rcases List.mem_append.mp behind with signed | digit
        · exact .inr (List.mem_append_left ['e', 'E'] (isSign.subset signed))
        · exact .inl (isDigits c digit)

theorem IsDecimal.chars {n : Notation} (h : IsDecimal s n) :
    ∀ c ∈ s, c.isDigit = true ∨ c ∈ ['+', '-', '.', 'e', 'E'] := by
  intro c member
  obtain ⟨isSign, isMantissa, isExponent⟩ := h
  rcases List.mem_append.mp member with signed | behind
  · exact .inr (List.mem_append_left ['.', 'e', 'E'] (isSign.subset signed))
  · rcases List.mem_append.mp behind with digits | exponent
    · exact (isMantissa.chars c digits).imp id fun point => by simp [point]
    · refine (isExponent.chars c exponent).imp id fun marked => ?_
      simp only [List.mem_cons, List.not_mem_nil, or_false] at marked ⊢
      tauto

end

end EnvAudit.Binary64
