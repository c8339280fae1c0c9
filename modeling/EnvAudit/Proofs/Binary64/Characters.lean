import EnvAudit.Proofs.Json.Numbers
import EnvAudit.Proofs.Text.Case

namespace EnvAudit

namespace Numeral

def characters : List Char := "0123456789-.infa".toList

theorem mem_characters_of_isDigit {c : Char} (digit : c.isDigit = true) : c ∈ characters := by
  have ascii : c.toNat < 0x80 := by
    have range : 48 ≤ c.toNat ∧ c.toNat ≤ 57 := by simpa [Char.isDigit, UInt32.le_iff_toNat_le] using digit
    omega
  have digits : ∀ n < 0x80, (Char.ofNat n).isDigit = true → Char.ofNat n ∈ characters := by decide +kernel
  exact Text.forall_ascii (P := fun c => c.isDigit = true → c ∈ characters) digits ascii digit

theorem digits_subset (n : Nat) : digits n ⊆ characters :=
  fun c member => mem_characters_of_isDigit (isDigit_of_mem_digits c member)

theorem toString_subset (n : Nat) : (toString n).toList ⊆ characters := by
  rw [Nat.toString_eq_repr, Nat.toList_repr]
  exact digits_subset n

theorem render_subset (n : Int) : (render n).toList ⊆ characters := by
  rw [render, String.toList_ofList]
  split
  · exact List.cons_subset.mpr ⟨by decide, digits_subset _⟩
  · exact digits_subset _

theorem zeroPad_subset (width : Nat) {text : List Char} (h : text ⊆ characters) : zeroPad width text ⊆ characters := by
  refine List.append_subset.mpr ⟨fun c member => ?_, h⟩
  rw [List.eq_of_mem_replicate member]
  decide

end Numeral

theorem Binary64.fixed_subset (places : Nat) (x : Binary64) : (x.fixed places).toList ⊆ Numeral.characters := by
  have words : "nan".toList ⊆ Numeral.characters ∧ "inf".toList ⊆ Numeral.characters ∧
      "-inf".toList ⊆ Numeral.characters := by decide
  cases x with
  | nan => exact words.1
  | infinite negative =>
      cases negative with
      | true => exact words.2.2
      | false => exact words.2.1
  | finite negative mantissa exponent =>
      simp only [fixed, String.toList_ofList]
      have padded := Numeral.zeroPad_subset (places + 1)
        (Numeral.digits_subset (roundQuotient ((ratio mantissa exponent).1 * Nat.pow 10 places)
          (ratio mantissa exponent).2))
      generalize Numeral.zeroPad _ _ = text at padded ⊢
      have whole : text.take (text.length - places) ⊆ Numeral.characters := List.Subset.trans (List.take_subset _ _) padded
      have fraction : text.drop (text.length - places) ⊆ Numeral.characters := List.Subset.trans (List.drop_subset _ _) padded
      have unsigned : (if (places == 0) = true then text.take (text.length - places)
          else text.take (text.length - places) ++ '.' :: text.drop (text.length - places)) ⊆ Numeral.characters := by
        split
        · exact whole
        · exact List.append_subset.mpr ⟨whole, List.cons_subset.mpr ⟨by decide, fraction⟩⟩
      cases negative with
      | true => exact List.cons_subset.mpr ⟨by decide, unsigned⟩
      | false => exact unsigned

end EnvAudit
