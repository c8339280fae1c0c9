import EnvAudit.Text.Case
import Mathlib.Data.Nat.Basic

namespace EnvAudit.Text

theorem forall_ascii {P : Char → Prop} (holds : ∀ n < 0x80, P (Char.ofNat n)) {c : Char} (ascii : c.toNat < 0x80) :
    P c := by
  have here := holds c.toNat ascii
  rwa [Char.ofNat_toNat] at here

theorem forall_mem_of_all {P : Char → Prop} [DecidablePred P] {s : List Char}
    (holds : (s.all fun c => decide (P c)) = true) : ∀ c ∈ s, P c :=
  fun c member => of_decide_eq_true (List.all_eq_true.mp holds c member)

def IsLowHexDigit (c : Char) : Prop := c.isDigit = true ∨ 'a' ≤ c ∧ c ≤ 'f'

def IsHexDigit (c : Char) : Prop := IsLowHexDigit c ∨ 'A' ≤ c ∧ c ≤ 'F'

instance : DecidablePred IsLowHexDigit := fun c => by unfold IsLowHexDigit; infer_instance

instance : DecidablePred IsHexDigit := fun c => by unfold IsHexDigit; infer_instance

theorem isLowHexDigit_iff_toNat {c : Char} :
    IsLowHexDigit c ↔ 0x30 ≤ c.toNat ∧ c.toNat ≤ 0x39 ∨ 0x61 ≤ c.toNat ∧ c.toNat ≤ 0x66 := by
  have shape : c.isDigit = (c.val ≥ 48 && c.val ≤ 57) := rfl
  simp only [IsLowHexDigit, shape, Char.le_def, UInt32.le_iff_toNat_le, Bool.and_eq_true, decide_eq_true_eq, ge_iff_le,
    Char.toNat_val]
  rfl

theorem IsHexDigit.toNat {c : Char} (h : IsHexDigit c) : 0x30 ≤ c.toNat ∧ c.toNat ≤ 0x66 := by
  rcases h with low | ⟨least, greatest⟩
  · rcases isLowHexDigit_iff_toNat.mp low with range | range <;> omega
  · rw [Char.le_def, UInt32.le_iff_toNat_le, Char.toNat_val, Char.toNat_val] at least greatest
    exact ⟨Nat.le_trans (by decide) least, Nat.le_trans greatest (by decide)⟩

theorem lowerRuns_beyond : ∀ run ∈ lowerRuns, 0x69 ≤ run.first + run.shift := by
  decide +kernel

theorem le_applyRuns {n : Nat} (beyond : 0x80 ≤ n) : 0x69 ≤ applyRuns lowerRuns n := by
  unfold applyRuns
  split
  · rename_i run found
    have least := lowerRuns_beyond run (Array.mem_of_find?_eq_some found)
    have covers := Array.find?_some found
    simp only [CaseRun.covers, Bool.and_eq_true, decide_eq_true_eq] at covers
    have first : run.first ≤ n := covers.1.1
    rw [Int.ofNat_eq_natCast]
    omega
  · omega

theorem not_isHexDigit_ofNat {n : Nat} (beyond : 0x67 ≤ n) : ¬IsHexDigit (Char.ofNat n) := by
  rw [Char.ofNat]
  by_cases valid : n.isValidChar
  · rw [dif_pos valid]
    exact fun h => absurd h.toNat.2 (Nat.not_le_of_lt beyond)
  · rw [dif_neg valid]
    decide

theorem isHexDigit_of_lowerChar {c : Char} (h : IsHexDigit (lowerChar c)) : c.toNat < 0x80 := by
  by_contra beyond
  have least := le_applyRuns (Nat.le_of_not_lt beyond)
  rw [lowerChar, if_neg beyond] at h
  exact not_isHexDigit_ofNat (Nat.le_trans (by decide) least) h

theorem isLowHexDigit_lowerChar_iff {c : Char} : IsLowHexDigit (lowerChar c) ↔ IsHexDigit c := by
  have ascii : c.toNat < 0x80 → (IsLowHexDigit (lowerChar c) ↔ IsHexDigit c) :=
    forall_ascii (P := fun c => IsLowHexDigit (lowerChar c) ↔ IsHexDigit c) (by decide +kernel)
  constructor
  · exact fun low => (ascii (isHexDigit_of_lowerChar (.inl low))).mp low
  · exact fun digit => (ascii (by have := digit.toNat; omega)).mpr digit

theorem length_le_lowerFrom (before s : List Char) : s.length ≤ (lowerFrom before s).length := by
  induction s generalizing before with
  | nil => exact Nat.zero_le _
  | cons c s ih =>
      have later := ih (c :: before)
      have form : 1 ≤ ((if c == '\u0130' then ['i', '\u0307']
        else if c == '\u03a3' then if meetsCased before && !meetsCased s then ['\u03c2'] else ['\u03c3']
        else [lowerChar c]).length) := by
        split_ifs <;> simp
      rw [lowerFrom, List.length_append, List.length_cons]
      omega

theorem length_le_lower (s : String) : s.length ≤ (lower s).length := by
  rw [lower, String.length_ofList, ← String.length_toList]
  exact length_le_lowerFrom [] s.toList

end EnvAudit.Text
