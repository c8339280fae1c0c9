import EnvAudit.Binary64.Basic
import Mathlib.Algebra.Order.Field.Rat
import Mathlib.Order.WithBotTop
import Mathlib.Tactic.FieldSimp
import Mathlib.Tactic.Linarith
import Mathlib.Tactic.Positivity
import Mathlib.Tactic.Ring

namespace EnvAudit.Binary64

def number? : Binary64 → Option (WithBot (WithTop ℚ))
  | nan => none
  | infinite true => some ⊥
  | infinite false => some ⊤
  | finite negative mantissa exponent => some ((signed negative mantissa * 2 ^ exponent : ℚ) : WithTop ℚ)

theorem exists_number {x : Binary64} (number : x ≠ nan) : ∃ p, x.number? = some p := by
  cases x with
  | nan => exact absurd rfl number
  | infinite negative => cases negative <;> exact ⟨_, rfl⟩
  | finite negative mantissa exponent => exact ⟨_, rfl⟩

theorem signed_mul (negative : Bool) (n k : Nat) : signed negative (n * k) = signed negative n * k := by
  cases negative <;> simp [signed]

theorem ratio_pos (mantissa : Nat) (exponent : Int) : 0 < (ratio mantissa exponent).2 := by
  unfold ratio
  split
  · exact Nat.one_pos
  · exact Nat.two_pow_pos _

theorem ratio_spec (mantissa : Nat) (exponent : Int) :
    ((ratio mantissa exponent).1 : ℚ) = mantissa * 2 ^ exponent * (ratio mantissa exponent).2 := by
  unfold ratio
  split
  · rename_i nonneg
    obtain ⟨n, rfl⟩ := Int.eq_ofNat_of_zero_le nonneg
    simp [Nat.pow_eq]
  · rename_i negative
    obtain ⟨n, rfl⟩ : ∃ n : Nat, exponent = -n := ⟨(-exponent).toNat, by omega⟩
    simp [Nat.pow_eq]

theorem lt_finite_iff (s t : Bool) (m n : Nat) (e f : Int) :
    lt (finite s m e) (finite t n f) = true ↔ (signed s m * 2 ^ e : ℚ) < signed t n * 2 ^ f := by
  have left := ratio_pos m e
  have right := ratio_pos n f
  have scaled (negative : Bool) (k : Nat) (g : Int) : (signed negative (ratio k g).1 : ℚ) =
      signed negative k * 2 ^ g * (ratio k g).2 := by
    have spec := ratio_spec k g
    cases negative <;> simp [signed, spec]
  have positive : (0 : ℚ) < (ratio m e).2 * (ratio n f).2 := by positivity
  have shape (a b c d : ℚ) : a * c * d < b * d * c ↔ a * (c * d) < b * (c * d) := by ring_nf
  simp only [lt, decide_eq_true_eq, signed_mul]
  rw [← Int.cast_lt (R := ℚ), Int.cast_mul, Int.cast_mul, scaled, scaled, Int.cast_natCast, Int.cast_natCast, shape,
    mul_lt_mul_iff_left₀ positive]

theorem lt_iff {x y : Binary64} {p q : WithBot (WithTop ℚ)} (hx : x.number? = some p) (hy : y.number? = some q) :
    lt x y = true ↔ p < q := by
  cases x with
  | nan => cases hx
  | infinite s => cases y with
    | nan => cases hy
    | infinite t => cases s <;> cases t <;> cases hx <;> cases hy <;> simp [lt]
    | finite t n f =>
        cases hy
        cases s <;> cases hx
        · exact iff_of_false Bool.false_ne_true not_top_lt
        · exact iff_of_true rfl (WithBot.bot_lt_coe _)
  | finite s m e => cases y with
    | nan => cases hy
    | infinite t =>
        cases hx
        cases t <;> cases hy
        · exact iff_of_true rfl (WithBot.coe_lt_coe.mpr (WithTop.coe_lt_top _))
        · exact iff_of_false Bool.false_ne_true not_lt_bot
    | finite t n f =>
        cases hx
        cases hy
        rw [lt_finite_iff, WithBot.coe_lt_coe, WithTop.coe_lt_coe]

theorem max_eq {x y : Binary64} {p q : WithBot (WithTop ℚ)} (hx : x.number? = some p) (hy : y.number? = some q) :
    x.max y = if p < q then y else x := by
  simp only [max, lt_iff hx hy]

theorem number?_max {x y : Binary64} {p q : WithBot (WithTop ℚ)} (hx : x.number? = some p)
    (hy : y.number? = some q) : (x.max y).number? = some (Max.max p q) := by
  rw [max_eq hx hy]
  split
  · rename_i less
    rw [hy, max_eq_right less.le]
  · rename_i less
    rw [hx, max_eq_left (not_lt.mp less)]

theorem max_assoc {x y z : Binary64} (hx : x ≠ nan) (hy : y ≠ nan) (hz : z ≠ nan) :
    (x.max y).max z = x.max (y.max z) := by
  obtain ⟨p, hx⟩ := exists_number hx
  obtain ⟨q, hy⟩ := exists_number hy
  obtain ⟨r, hz⟩ := exists_number hz
  rw [max_eq (number?_max hx hy) hz, max_eq hx (number?_max hy hz), max_eq hx hy, max_eq hy hz]
  rcases lt_or_ge p q with below | above
  · rw [max_eq_right below.le, if_pos below, if_pos (lt_max_of_lt_left below)]
  · rw [max_eq_left above, if_neg above.not_gt]
    rcases lt_or_ge q r with less | more
    · rw [max_eq_right less.le, if_pos less]
    · rw [max_eq_left more, if_neg above.not_gt, if_neg (more.trans above).not_gt]

theorem number?_max_comm {x y : Binary64} (hx : x ≠ nan) (hy : y ≠ nan) : (x.max y).number? = (y.max x).number? := by
  obtain ⟨p, hx⟩ := exists_number hx
  obtain ⟨q, hy⟩ := exists_number hy
  rw [number?_max hx hy, number?_max hy hx, max_comm]

end EnvAudit.Binary64
