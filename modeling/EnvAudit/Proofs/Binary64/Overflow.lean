import EnvAudit.Binary64.Decimal
import Mathlib.Algebra.Order.Field.Power
import Mathlib.Algebra.Order.Field.Rat
import Mathlib.Tactic.FieldSimp
import Mathlib.Tactic.Linarith
import Mathlib.Tactic.NormNum
import Mathlib.Tactic.Positivity
import Mathlib.Tactic.Ring

/-!
# Overflow

A number is too large for a double from `2 ^ 1024 - 2 ^ 970` on, which is half way between the largest double and the one
that would follow; its mantissa is odd, so a number half way is rounded up. Main statements: `isFinite_ofRatio_iff` and
`isFinite_ofDecimal_iff`.
-/

namespace EnvAudit.Binary64

/-- The least magnitude that is rounded to infinity. -/
def overflow : ℚ := 2 ^ 1024 - 2 ^ 970

/-! ## Rounding -/

section
variable {num den : Nat} (pos : 0 < den)
include pos

theorem lt_roundQuotient_iff {k : Nat} (odd : k % 2 = 1) :
    k < roundQuotient num den ↔ (2 * k + 1) * den ≤ 2 * num := by
  have whole := Nat.div_add_mod num den
  have left := Nat.mod_lt num pos
  have scaled : (2 * k + 1) * den = 2 * (den * k) + den := by ring
  rw [roundQuotient, scaled]
  simp only [Bool.or_eq_true, Bool.and_eq_true, decide_eq_true_eq, beq_iff_eq]
  generalize num / den = quotient at *
  generalize num % den = rest at *
  rcases Nat.lt_trichotomy quotient k with below | rfl | above
  · have := Nat.mul_le_mul_left den below
    rw [Nat.mul_succ] at this
    split <;> omega
  · split <;> omega
  · have := Nat.mul_le_mul_left den above
    rw [Nat.mul_succ] at this
    split <;> omega

theorem scaleDown_pos (exponent : Int) : 0 < (scaleDown num den exponent).2 := by
  unfold scaleDown
  split
  · exact Nat.mul_pos pos (Nat.two_pow_pos _)
  · exact pos

omit pos in
theorem scaleDown_spec (exponent : Int) :
    ((scaleDown num den exponent).1 : ℚ) / (scaleDown num den exponent).2 = num / den / 2 ^ exponent := by
  unfold scaleDown
  split
  · rename_i nonneg
    obtain ⟨n, rfl⟩ := Int.eq_ofNat_of_zero_le nonneg
    simp [Nat.pow_eq, div_div]
  · rename_i negative
    obtain ⟨n, rfl⟩ : ∃ n : Nat, exponent = -n := ⟨(-exponent).toNat, by omega⟩
    simp [Nat.pow_eq, mul_div_right_comm]

theorem scaleDown_lt_iff (exponent : Int) (k : Nat) :
    (scaleDown num den exponent).1 < (scaleDown num den exponent).2 * Nat.pow 2 k ↔
      (num / den : ℚ) < 2 ^ (exponent + k) := by
  have positive : (0 : ℚ) < (scaleDown num den exponent).2 := by exact_mod_cast scaleDown_pos pos exponent
  rw [zpow_add₀ two_ne_zero, zpow_natCast, ← div_lt_iff₀' (by positivity), ← scaleDown_spec, div_lt_iff₀' positive,
    Nat.pow_eq]
  exact_mod_cast Iff.rfl

theorem log2_bounds (nonzero : num ≠ 0) :
    (2 : ℚ) ^ ((num.log2 : Int) - den.log2 - 1) ≤ num / den ∧
      (num / den : ℚ) < 2 ^ ((num.log2 : Int) - den.log2 + 1) := by
  have between {n : Nat} (nonzero : n ≠ 0) : (2 : ℚ) ^ n.log2 ≤ n ∧ (n : ℚ) < 2 ^ (n.log2 + 1) :=
    ⟨by exact_mod_cast Nat.log2_self_le nonzero, by exact_mod_cast Nat.lt_log2_self⟩
  obtain ⟨numLow, numHigh⟩ := between nonzero
  obtain ⟨denLow, denHigh⟩ := between pos.ne'
  have positive : (0 : ℚ) < den := by exact_mod_cast pos
  have split (a b : Nat) : (2 : ℚ) ^ ((a : Int) - b) = 2 ^ a / 2 ^ b := by
    rw [zpow_sub₀ two_ne_zero, zpow_natCast, zpow_natCast]
  constructor
  · rw [sub_sub, ← Nat.cast_succ, split]
    exact div_le_div₀ (Nat.cast_nonneg num) numLow positive denHigh.le
  · rw [sub_add_eq_add_sub, ← Nat.cast_succ, split]
    exact div_lt_div₀ numHigh denLow (by positivity) (by positivity)

theorem exponentOf_bounds (nonzero : num ≠ 0) :
    (num / den : ℚ) < 2 ^ (exponentOf num den + 53) ∧
      (-1074 < exponentOf num den → 2 ^ (exponentOf num den + 52) ≤ (num / den : ℚ)) := by
  obtain ⟨low, high⟩ := log2_bounds pos nonzero
  let guess : Int := Int.ofNat num.log2 - Int.ofNat den.log2 - 52
  have value : guess = num.log2 - den.log2 - 52 := rfl
  have test : (scaleDown num den guess).1 < (scaleDown num den guess).2 * Nat.pow 2 52 ↔
      (num / den : ℚ) < 2 ^ (guess + (52 : Nat)) := scaleDown_lt_iff pos guess 52
  have shape : exponentOf num den = Max.max
      (if (scaleDown num den guess).1 < (scaleDown num den guess).2 * Nat.pow 2 52 then guess - 1 else guess)
      (-1074) := rfl
  -- The exponent without its bound is right by one bit, which the test finds.
  have normal : ∃ exponent : Int, exponentOf num den = Max.max exponent (-1074) ∧
      (2 : ℚ) ^ (exponent + 52) ≤ num / den ∧ (num / den : ℚ) < 2 ^ (exponent + 53) := by
    by_cases small : (scaleDown num den guess).1 < (scaleDown num den guess).2 * Nat.pow 2 52
    · refine ⟨guess - 1, by rw [shape, if_pos small], ?_, ?_⟩
      · convert low using 2
        omega
      · convert test.mp small using 2
        omega
    · refine ⟨guess, by rw [shape, if_neg small], not_lt.mp (test.not.mp small), ?_⟩
      convert high using 2
      omega
  obtain ⟨exponent, bounded, low, high⟩ := normal
  rw [bounded]
  constructor
  · exact high.trans_le (zpow_le_zpow_right₀ one_le_two (by omega))
  · intro above
    rwa [max_eq_left (by omega)]

omit pos in
/-- The two ways in which a rounded mantissa ends: it is carried into the exponent, or stays. -/
theorem isFinite_carried_iff {limit least mantissa : Nat} {negative : Bool} {exponent : Int} :
    (match if mantissa == limit then (least, exponent + 1) else (mantissa, exponent) with
      | (mantissa, exponent) =>
        if 971 < exponent then infinite negative else finite negative mantissa exponent).isFinite = true ↔
      exponent < 971 ∨ exponent = 971 ∧ mantissa ≠ limit := by
  by_cases full : mantissa = limit
  · rw [if_pos (beq_iff_eq.mpr full)]
    dsimp only
    split <;> simp [isFinite, full] <;> omega
  · rw [if_neg (beq_iff_eq.not.mpr full)]
    dsimp only
    split <;> simp [isFinite, full] <;> omega

omit pos in
theorem isFinite_ofRatio_of_ne_zero {negative : Bool} (nonzero : num ≠ 0) :
    (ofRatio negative num den).isFinite = true ↔ exponentOf num den < 971 ∨ exponentOf num den = 971 ∧
      roundQuotient (scaleDown num den (exponentOf num den)).1 (scaleDown num den (exponentOf num den)).2 ≠
        Nat.pow 2 53 := by
  rw [ofRatio, if_neg (beq_iff_eq.not.mpr nonzero)]
  -- Reducing the definition at once would make the logarithms in the exponent unfold.
  generalize exponentOf num den = exponent
  extract_lets
  split
  rename_i scaled
  rw [scaled]
  exact isFinite_carried_iff

omit pos in
theorem overflow_eq : overflow = (2 ^ 54 - 1) * 2 ^ (970 : Int) := by
  have split : (2 : ℚ) ^ 1024 = 2 ^ 54 * 2 ^ 970 := by rw [← pow_add]
  rw [overflow, split, sub_mul, one_mul]
  rfl

theorem roundQuotient_eq_limit_iff (below : (num / den : ℚ) < 2 ^ 53) :
    roundQuotient num den = Nat.pow 2 53 ↔ (2 ^ 54 - 1 : ℚ) ≤ 2 * (num / den) := by
  have positive : (0 : ℚ) < den := by exact_mod_cast pos
  have quotient : num / den < Nat.pow 2 53 := by
    rw [Nat.div_lt_iff_lt_mul pos]
    rw [div_lt_iff₀ positive] at below
    exact_mod_cast below
  have atMost : roundQuotient num den ≤ Nat.pow 2 53 := by
    rw [roundQuotient]
    split <;> omega
  have rounds : Nat.pow 2 53 - 1 < roundQuotient num den ↔ (2 * (Nat.pow 2 53 - 1) + 1) * den ≤ 2 * num :=
    lt_roundQuotient_iff pos (by decide)
  have some : 0 < Nat.pow 2 53 := by decide
  have full : roundQuotient num den = Nat.pow 2 53 ↔ Nat.pow 2 53 - 1 < roundQuotient num den := by omega
  rw [full, rounds, ← mul_div_assoc, le_div_iff₀ positive, ← Nat.cast_le (α := ℚ)]
  norm_num

theorem isFinite_ofRatio_iff {negative : Bool} :
    (ofRatio negative num den).isFinite = true ↔ (num / den : ℚ) < overflow := by
  have scale (k : Nat) : (2 : ℚ) ^ ((970 : Int) + k) = 2 ^ k * 2 ^ (970 : Int) := by
    rw [zpow_add₀ two_ne_zero, zpow_natCast, mul_comm]
  have unit : (0 : ℚ) < 2 ^ (970 : Int) := zpow_pos two_pos _
  rw [overflow_eq]
  by_cases zero : num = 0
  · subst zero
    have positive : (0 : ℚ) < (2 ^ 54 - 1) * 2 ^ (970 : Int) := mul_pos (by norm_num) unit
    simpa [ofRatio, isFinite] using positive
  · obtain ⟨high, low⟩ := exponentOf_bounds pos zero
    rw [isFinite_ofRatio_of_ne_zero zero]
    generalize exponentOf num den = exponent at *
    -- Below the greatest exponent everything fits, above it nothing does, and at it the rounding decides.
    rcases lt_trichotomy exponent 971 with below | rfl | above
    · have fits : (num / den : ℚ) < (2 ^ 54 - 1) * 2 ^ (970 : Int) :=
        calc (num / den : ℚ)
          _ < 2 ^ (exponent + 53) := high
          _ ≤ 2 ^ ((970 : Int) + (53 : Nat)) := zpow_le_zpow_right₀ one_le_two (by push_cast; omega)
          _ = 2 ^ 53 * 2 ^ (970 : Int) := scale 53
          _ ≤ (2 ^ 54 - 1) * 2 ^ (970 : Int) := mul_le_mul_of_nonneg_right (by norm_num) unit.le
      exact iff_of_true (.inl below) fits
    · have half : (2 : ℚ) * (num / den / 2 ^ (971 : Int)) = num / den / 2 ^ (970 : Int) := by
        have next : (2 : ℚ) ^ (971 : Int) = 2 * 2 ^ (970 : Int) := by simpa using scale 1
        rw [next]
        field_simp
      have below : ((scaleDown num den 971).1 : ℚ) / (scaleDown num den 971).2 < 2 ^ 53 := by
        rw [scaleDown_spec, div_lt_iff₀ (by positivity), ← zpow_natCast, ← zpow_add₀ two_ne_zero, add_comm]
        exact high
      have carried := roundQuotient_eq_limit_iff (scaleDown_pos pos 971) below
      rw [scaleDown_spec, half, le_div_iff₀ unit] at carried
      simp only [lt_irrefl, true_and, false_or, ne_eq, carried, not_le]
    · have beyond : (2 ^ 54 - 1) * 2 ^ (970 : Int) ≤ (num / den : ℚ) :=
        calc (2 ^ 54 - 1) * 2 ^ (970 : Int)
          _ ≤ (2 : ℚ) ^ 54 * 2 ^ (970 : Int) := mul_le_mul_of_nonneg_right (by norm_num) unit.le
          _ = 2 ^ ((970 : Int) + (54 : Nat)) := (scale 54).symm
          _ ≤ 2 ^ (exponent + 52) := zpow_le_zpow_right₀ one_le_two (by push_cast; omega)
          _ ≤ num / den := low (by omega)
      exact iff_of_false (by omega) (not_lt.mpr beyond)

end

/-! ## Decimal numbers -/

theorem one_lt_overflow : 1 < overflow := by
  have unit : (1 : ℚ) ≤ 2 ^ (970 : Int) := one_le_zpow₀ one_le_two (by decide)
  rw [overflow_eq]
  calc (1 : ℚ)
    _ < 2 ^ 54 - 1 := by norm_num
    _ ≤ (2 ^ 54 - 1) * 2 ^ (970 : Int) := le_mul_of_one_le_right (by norm_num) unit

theorem overflow_lt_ten_pow : overflow < 10 ^ (310 : Int) := by
  have positive : (0 : ℚ) < 2 ^ 970 := by positivity
  calc overflow
    _ < 2 ^ 1024 := sub_lt_self _ positive
    _ = (2 ^ 256) ^ 4 := by rw [← pow_mul]
    _ ≤ (2 * 10 ^ 77) ^ 4 := pow_le_pow_left₀ (by positivity) (by norm_num) 4
    _ = 2 ^ 4 * 10 ^ 308 := by rw [mul_pow, ← pow_mul]
    _ ≤ 10 ^ 2 * 10 ^ 308 := mul_le_mul_of_nonneg_right (by norm_num) (by positivity)
    _ = 10 ^ (310 : Int) := by rw [← pow_add, ← zpow_natCast]; rfl

section
variable {digits : Nat} {exponent : Int}

theorem decimal_bounds (nonzero : digits ≠ 0) :
    (10 : ℚ) ^ (((Nat.toDigits 10 digits).length : Int) + exponent - 1) ≤ digits * 10 ^ exponent ∧
      (digits * 10 ^ exponent : ℚ) < 10 ^ (((Nat.toDigits 10 digits).length : Int) + exponent) := by
  have scale : (0 : ℚ) < 10 ^ exponent := by positivity
  obtain ⟨k, length⟩ : ∃ k, (Nat.toDigits 10 digits).length = k + 1 :=
    Nat.exists_eq_add_one.mpr Nat.length_toDigits_pos
  have high : digits < 10 ^ (k + 1) := (Nat.length_toDigits_le_iff (by decide) (by omega)).mp length.le
  have low : 10 ^ k ≤ digits := by
    rcases Nat.eq_zero_or_pos k with rfl | positive
    · rw [pow_zero]
      omega
    · by_contra short
      have := (Nat.length_toDigits_le_iff (b := 10) (by decide) positive).mpr (not_le.mp short)
      omega
  have split (n : Nat) : (10 : ℚ) ^ ((n : Int) + exponent) = 10 ^ n * 10 ^ exponent := by
    rw [zpow_add₀ (by norm_num), zpow_natCast]
  constructor
  · have shifted : ((k + 1 : Nat) : Int) + exponent - 1 = k + exponent := by
      push_cast
      ring
    rw [length, shifted, split]
    exact mul_le_mul_of_nonneg_right (by exact_mod_cast low) scale.le
  · rw [length, split]
    exact mul_lt_mul_of_pos_right (by exact_mod_cast high) scale

theorem isFinite_ofDecimal_iff {negative : Bool} :
    (ofDecimal negative digits exponent).isFinite = true ↔ (digits * 10 ^ exponent : ℚ) < overflow := by
  unfold ofDecimal
  extract_lets size
  have value : size = (Nat.toDigits 10 digits).length + exponent := rfl
  clear_value size
  split
  · rename_i tiny
    refine iff_of_true rfl (lt_of_le_of_lt ?_ one_lt_overflow)
    rw [Bool.or_eq_true, beq_iff_eq, decide_eq_true_eq] at tiny
    rcases tiny with rfl | small
    · simp
    · by_cases zero : digits = 0
      · simp [zero]
      · exact (decimal_bounds zero).2.le.trans (zpow_le_one_of_nonpos₀ (by norm_num) (by omega))
  · rename_i solid
    rw [Bool.or_eq_true, beq_iff_eq, decide_eq_true_eq, not_or] at solid
    split
    · have beyond : (10 : ℚ) ^ (310 : Int) ≤ digits * 10 ^ exponent :=
        (zpow_le_zpow_right₀ (by norm_num) (by omega)).trans (decimal_bounds solid.1).1
      exact iff_of_false (by simp [isFinite]) (not_lt.mpr (overflow_lt_ten_pow.le.trans beyond))
    · split
      · rename_i whole
        obtain ⟨n, rfl⟩ := Int.eq_ofNat_of_zero_le whole
        rw [isFinite_ofRatio_iff Nat.one_pos]
        simp [Nat.pow_eq]
      · rename_i fraction
        obtain ⟨n, rfl⟩ : ∃ n : Nat, exponent = -n := ⟨(-exponent).toNat, by omega⟩
        have positive : 0 < Nat.pow 10 (- -(n : Int)).toNat := Nat.pow_pos (by decide)
        rw [isFinite_ofRatio_iff positive]
        simp [Nat.pow_eq, div_eq_mul_inv]

end

end EnvAudit.Binary64
