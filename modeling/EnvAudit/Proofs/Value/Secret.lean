import EnvAudit.Value.Shape
import EnvAudit.Proofs.Text.Case
import EnvAudit.Proofs.Text.Split
import Mathlib.Tactic.IntervalCases

namespace EnvAudit.Value
open Text

/-! ## Shapes -/

/-- A long text of letters, digits, underscores and hyphens. -/
structure IsToken (s : List Char) : Prop where
  long : 32 ≤ s.length
  chars : ∀ c ∈ s, c.isAlphanum = true ∨ c = '_' ∨ c = '-'

/-- A long text in base 64, with at most two equality signs at its end. -/
def IsEncoded (s : List Char) : Prop :=
  ∃ body padding, s = body ++ List.replicate padding '=' ∧ 40 ≤ body.length ∧ padding ≤ 2 ∧
    ∀ c ∈ body, c.isAlphanum = true ∨ c = '+' ∨ c = '/'

structure IsShortHex (s : List Char) : Prop where
  long : 32 ≤ s.length
  short : s.length ≤ 39
  digits : ∀ c ∈ s, IsHexDigit c

inductive IsShaped (s : List Char) : String → Prop
  | encoded : IsEncoded s → IsShaped s "Base64 encoded secret"
  | hexadecimal : IsShortHex s → IsShaped s "Hexadecimal secret"
  | random : IsToken s → ¬IsEncoded s → ¬IsShortHex s → IsShaped s "Random string secret"

section
variable {s : List Char}

theorem isAlphanum_of_isHexDigit {c : Char} (digit : IsHexDigit c) : c.isAlphanum = true := by
  have ascii : c.toNat < 0x80 := by
    have := digit.toNat
    omega
  exact forall_ascii (P := fun c => IsHexDigit c → c.isAlphanum = true) (by decide +kernel) ascii digit

theorem IsEncoded.length (h : IsEncoded s) : 40 ≤ s.length := by
  obtain ⟨body, padding, rfl, long, -, -⟩ := h
  rw [List.length_append]
  omega

theorem isEncoded_of_hex (long : 40 ≤ s.length) (digits : ∀ c ∈ s, IsHexDigit c) : IsEncoded s :=
  ⟨s, 0, (List.append_nil s).symm, long, Nat.zero_le 2, fun c member => .inl (isAlphanum_of_isHexDigit (digits c member))⟩

theorem IsShortHex.not_isEncoded (h : IsShortHex s) : ¬IsEncoded s := fun encoded => by
  have := h.short
  have := encoded.length
  omega

theorem IsShortHex.isToken (h : IsShortHex s) : IsToken s :=
  ⟨h.long, fun c member => .inl (isAlphanum_of_isHexDigit (h.digits c member))⟩

theorem IsShaped.length {name : String} (h : IsShaped s name) : 32 ≤ s.length := by
  cases h with
  | encoded encoded => exact Nat.le_trans (by decide) encoded.length
  | hexadecimal hexadecimal => exact hexadecimal.long
  | random token => exact token.long

theorem exists_isShaped_iff : (∃ name, IsShaped s name) ↔ IsToken s ∨ IsEncoded s := by
  constructor
  · rintro ⟨name, encoded | hexadecimal | ⟨token, -, -⟩⟩
    · exact .inr encoded
    · exact .inl hexadecimal.isToken
    · exact .inl token
  · intro h
    by_cases encoded : IsEncoded s
    · exact ⟨_, .encoded encoded⟩
    · by_cases hexadecimal : IsShortHex s
      · exact ⟨_, .hexadecimal hexadecimal⟩
      · exact ⟨_, .random (h.resolve_right encoded) encoded hexadecimal⟩

theorem isRandomSecret_iff : isRandomSecret s = true ↔ IsToken s := by
  simp only [isRandomSecret, Bool.and_eq_true, decide_eq_true_eq, List.all_eq_true, Bool.or_eq_true, beq_iff_eq, or_assoc]
  exact ⟨fun h => ⟨h.1, h.2⟩, fun h => ⟨h.long, h.chars⟩⟩

theorem isHexSecret_iff : isHexSecret s = true ↔ 32 ≤ s.length ∧ ∀ c ∈ s, IsHexDigit c := by
  simp only [isHexSecret, Bool.and_eq_true, decide_eq_true_eq, List.all_eq_true, Bool.or_eq_true,
    ← isLowHexDigit_lowerChar_iff, IsLowHexDigit]

theorem isHexSecret_iff_of_not_isEncoded (plain : ¬IsEncoded s) : isHexSecret s = true ↔ IsShortHex s := by
  rw [isHexSecret_iff]
  constructor
  · rintro ⟨long, digits⟩
    refine ⟨long, ?_, digits⟩
    by_contra longer
    exact plain (isEncoded_of_hex (by omega) digits)
  · exact fun h => ⟨h.long, h.digits⟩

def isEncodedChar (c : Char) : Bool := c.isAlphanum || c == '+' || c == '/'

theorem isEncodedChar_iff {c : Char} : isEncodedChar c = true ↔ c.isAlphanum = true ∨ c = '+' ∨ c = '/' := by
  simp only [isEncodedChar, Bool.or_eq_true, beq_iff_eq, or_assoc]

theorem isBase64Secret_eq (s : List Char) : isBase64Secret s = (decide (40 ≤ (s.takeWhile isEncodedChar).length) &&
    (s.dropWhile isEncodedChar == [] || s.dropWhile isEncodedChar == ['='] ||
      s.dropWhile isEncodedChar == ['=', '='])) := rfl

theorem isPadding_iff {s : List Char} :
    (s == [] || s == ['='] || s == ['=', '=']) = true ↔ ∃ padding ≤ 2, s = List.replicate padding '=' := by
  simp only [Bool.or_eq_true, beq_iff_eq, or_assoc]
  constructor
  · rintro (rfl | rfl | rfl)
    · exact ⟨0, by decide, rfl⟩
    · exact ⟨1, by decide, rfl⟩
    · exact ⟨2, by decide, rfl⟩
  · rintro ⟨padding, few, rfl⟩
    interval_cases padding <;> simp

theorem span_padded {body : List Char} (digits : ∀ c ∈ body, isEncodedChar c = true) (padding : Nat) :
    (body ++ List.replicate padding '=').takeWhile isEncodedChar = body ∧
      (body ++ List.replicate padding '=').dropWhile isEncodedChar = List.replicate padding '=' := by
  have stops : ∀ c ∈ (List.replicate padding '=').head?, isEncodedChar c = false := fun c head => by
    rw [List.eq_of_mem_replicate (List.mem_of_mem_head? head)]
    rfl
  exact ⟨takeWhile_append_of_stop digits stops, dropWhile_append_of_stop digits stops⟩

theorem isBase64Secret_iff : isBase64Secret s = true ↔ IsEncoded s := by
  rw [isBase64Secret_eq, Bool.and_eq_true, decide_eq_true_eq, isPadding_iff]
  constructor
  · rintro ⟨long, padding, few, tail⟩
    refine ⟨s.takeWhile isEncodedChar, padding, ?_, long, few, fun c member => ?_⟩
    · rw [← tail, List.takeWhile_append_dropWhile]
    · exact isEncodedChar_iff.mp (List.mem_takeWhile_imp member)
  · rintro ⟨body, padding, rfl, long, few, digits⟩
    obtain ⟨front, tail⟩ := span_padded (fun c member => isEncodedChar_iff.mpr (digits c member)) padding
    rw [front, tail]
    exact ⟨long, padding, few, rfl⟩

theorem IsShaped.unique {name other : String} (h : IsShaped s name) (h' : IsShaped s other) : name = other := by
  cases h with
  | encoded encoded =>
      rcases h' with _ | hexadecimal | ⟨-, plain, -⟩
      · rfl
      · exact absurd encoded hexadecimal.not_isEncoded
      · exact absurd encoded plain
  | hexadecimal hexadecimal =>
      rcases h' with encoded | _ | ⟨-, -, other⟩
      · exact absurd encoded hexadecimal.not_isEncoded
      · rfl
      · exact absurd hexadecimal other
  | random _ plain other =>
      rcases h' with encoded | hexadecimal | _
      · exact absurd encoded plain
      · exact absurd hexadecimal other
      · rfl

theorem isShaped_of_secretShape? {value name : String} (found : secretShape? value = some name) :
    IsShaped value.toList name := by
  rw [secretShape?] at found
  generalize value.toList = s at found ⊢
  split at found
  · rename_i encoded
    cases found
    exact .encoded (isBase64Secret_iff.mp encoded)
  · rename_i plain
    rw [isBase64Secret_iff] at plain
    have hex := isHexSecret_iff_of_not_isEncoded plain
    split at found
    · rename_i hexadecimal
      cases found
      exact .hexadecimal (hex.mp hexadecimal)
    · rename_i other
      split at found
      · rename_i token
        cases found
        exact .random (isRandomSecret_iff.mp token) plain (other ∘ hex.mpr)
      · cases found

theorem shapeless_of_secretShape? {value : String} (none : secretShape? value = none) :
    ¬(IsToken value.toList ∨ IsEncoded value.toList) := by
  rw [secretShape?] at none
  rw [← isRandomSecret_iff, ← isBase64Secret_iff]
  generalize value.toList = s at none ⊢
  split at none
  · cases none
  · rename_i plain
    split at none
    · cases none
    · split at none
      · cases none
      · rename_i other
        exact not_or.mpr ⟨other, plain⟩

theorem secretShape?_eq_some_iff {value name : String} :
    secretShape? value = some name ↔ IsShaped value.toList name := by
  refine ⟨isShaped_of_secretShape?, fun shaped => ?_⟩
  cases found : secretShape? value with
  | none => exact absurd (exists_isShaped_iff.mp ⟨name, shaped⟩) (shapeless_of_secretShape? found)
  | some other => rw [(isShaped_of_secretShape? found).unique shaped]

end

/-! ## Weak secrets -/

theorem length_of_mem_weakSecrets : ∀ word ∈ weakSecrets, word.length ≤ 11 := by decide

theorem isWeakSecret_iff {value : String} :
    isWeakSecret value = true ↔ lower value ∈ weakSecrets ∨ value.length < minSecretLength := by
  rw [isWeakSecret, Bool.or_eq_true, List.contains_iff_mem, decide_eq_true_eq]

theorem secretShape?_of_isWeakSecret {value : String} (weak : isWeakSecret value = true) :
    secretShape? value = none := by
  rw [Option.eq_none_iff_forall_ne_some]
  intro name shaped
  have long : 32 ≤ value.length := by
    rw [← String.length_toList]
    exact (secretShape?_eq_some_iff.mp shaped).length
  rcases isWeakSecret_iff.mp weak with word | short
  · have known := length_of_mem_weakSecrets _ word
    have lowered := length_le_lower value
    omega
  · exact absurd long (by rw [minSecretLength] at short; omega)

end EnvAudit.Value
