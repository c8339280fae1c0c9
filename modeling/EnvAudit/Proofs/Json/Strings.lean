import EnvAudit.Json.Reader
import EnvAudit.Json.Writer
import EnvAudit.Proofs.Text.Utf8

namespace EnvAudit

/-! ## Hexadecimal digits -/

namespace Text

theorem hex_one {n : Nat} (small : n < 16) : hex 1 n = [n.digitChar] := by
  simp [hex, Nat.toDigits_of_lt_base small]

theorem hex_succ (width n : Nat) : hex (width + 2) n = hex (width + 1) (n / 16) ++ [(n % 16).digitChar] := by
  by_cases small : n < 16
  · have zero : n / 16 = 0 := Nat.div_eq_of_lt small
    have same : n % 16 = n := Nat.mod_eq_of_lt small
    simp [hex, zero, same, Nat.toDigits_of_lt_base small, List.replicate_succ']
  · have padding (length : Nat) : width + 2 - (length + 1) = width + 1 - length := by omega
    simp only [hex, Nat.toDigits_of_base_le (by decide) (Nat.le_of_not_lt small), List.length_append,
      List.length_singleton, padding, List.append_assoc]

theorem hex_four {n : Nat} (bound : n < 0x10000) : hex 4 n =
    [(n / 0x1000).digitChar, (n / 0x100 % 16).digitChar, (n / 16 % 16).digitChar, (n % 16).digitChar] := by
  have small : n / 16 / 16 / 16 < 16 := by omega
  rw [hex_succ, hex_succ, hex_succ, hex_one small]
  simp [Nat.div_div_eq_div_mul]

end Text

theorem Numeral.hexValue?_digitChar : ∀ n < 16, hexValue? n.digitChar = some n := by decide

namespace Json

theorem readUnit?_hex {n : Nat} (bound : n < 0x10000) {rest : List Char} (more : rest ≠ []) :
    readUnit? (Text.hex 4 n ++ rest) = some (n, rest) := by
  have first : n / 0x1000 < 16 := by omega
  have mod (m : Nat) : m % 16 < 16 := Nat.mod_lt m (by decide)
  have value : ((n / 0x1000 * 16 + n / 0x100 % 16) * 16 + n / 16 % 16) * 16 + n % 16 = n := by omega
  have nonempty : rest.isEmpty = false := by simpa using more
  rw [Text.hex_four bound]
  simp [readUnit?, Numeral.hexValue?_digitChar _ first, Numeral.hexValue?_digitChar _ (mod _), value, nonempty]

/-! ## Characters -/

variable {opened fuel n : Nat} {rest : List Char}

def prepend (c : Char) (chars : List Char × List Char) : List Char × List Char := (c :: chars.1, chars.2)

theorem readChars_quote : readChars opened (fuel + 1) ('"' :: rest) = .ok ([], rest) := by simp [readChars]

theorem readChars_plain {c : Char} (quote : c ≠ '"') (backslash : c ≠ '\\') (control : 0x20 ≤ c.toNat) :
    readChars opened (fuel + 1) (c :: rest) = (readChars opened fuel rest).map (prepend c) := by
  have visible : ¬ c.toNat < 0x20 := Nat.not_lt.mpr control
  simp only [readChars, beq_iff_eq, quote, backslash, visible, if_false]
  rfl

theorem readChars_short {e c : Char} (short : shortEscape? e = some c) :
    readChars opened (fuel + 1) ('\\' :: e :: rest) = (readChars opened fuel rest).map (prepend c) := by
  have other : e ≠ 'u' := by
    rintro rfl
    cases short
  rw [readChars]
  · simp only [short]
    rfl
  · simpa using other

theorem readChars_unit (bound : n < 0x10000) (whole : ¬ (0xd800 ≤ n ∧ n ≤ 0xdfff)) (more : rest ≠ []) :
    readChars opened (fuel + 1) (unitEscape n ++ rest) =
      (readChars opened fuel rest).map (prepend (Char.ofNat n)) := by
  have noHigh : (decide (0xd800 ≤ n) && decide (n ≤ 0xdbff)) = false := by grind
  have noLow : (decide (0xdc00 ≤ n) && decide (n ≤ 0xdfff)) = false := by grind
  simp only [unitEscape, List.cons_append, readChars, readUnit?_hex bound more, noHigh, noLow]
  rfl

theorem readLowHalf?_unitEscape (low : 0xdc00 ≤ n ∧ n ≤ 0xdfff) (more : rest ≠ []) :
    readLowHalf? (unitEscape n ++ rest) = .ok (some (n, rest)) := by
  have bound : n < 0x10000 := by omega
  have long : ¬ (Text.hex 4 n ++ rest).length < 5 := by
    have one : 0 < rest.length := List.length_pos_iff.mpr more
    rw [Text.hex_four bound]
    simp only [List.length_append, List.length_cons, List.length_nil]
    omega
  simp only [unitEscape, List.cons_append, readLowHalf?, long, if_false, readUnit?_hex bound more]
  simp [low]

theorem readChars_pair {high low : Nat} (isHigh : 0xd800 ≤ high ∧ high ≤ 0xdbff)
    (isLow : 0xdc00 ≤ low ∧ low ≤ 0xdfff) (more : rest ≠ []) :
    readChars opened (fuel + 1) (unitEscape high ++ (unitEscape low ++ rest)) =
      (readChars opened fuel rest).map
        (prepend (Char.ofNat (0x10000 + (high - 0xd800) * 0x400 + (low - 0xdc00)))) := by
  have bound : high < 0x10000 := by omega
  have first : (decide (0xd800 ≤ high) && decide (high ≤ 0xdbff)) = true := by simpa using isHigh
  have digits : readUnit? (Text.hex 4 high ++ (unitEscape low ++ rest)) = some (high, unitEscape low ++ rest) :=
    readUnit?_hex bound (by simp [unitEscape])
  rw [unitEscape, List.cons_append, List.cons_append, readChars, if_neg (by decide), if_pos (by decide)]
  simp only [digits, first, readLowHalf?_unitEscape isLow more]
  rfl

theorem readChars_halves (beyond : 0x10000 ≤ n) (valid : n < 0x110000) (more : rest ≠ []) :
    readChars opened (fuel + 1) (unitEscape (0xd800 + (n - 0x10000) / 0x400) ++
        unitEscape (0xdc00 + (n - 0x10000) % 0x400) ++ rest) =
      (readChars opened fuel rest).map (prepend (Char.ofNat n)) := by
  have value : 0x10000 + (0xd800 + (n - 0x10000) / 0x400 - 0xd800) * 0x400 +
      (0xdc00 + (n - 0x10000) % 0x400 - 0xdc00) = n := by omega
  rw [List.append_assoc, readChars_pair (by omega) (by omega) more, value]

/-! ## Strings -/

inductive IsEscape (ascii : Bool) : Char → List Char → Prop where
  | short {e c : Char} : shortEscape? e = some c → IsEscape ascii c ['\\', e]
  | plain {c : Char} : c ≠ '"' → c ≠ '\\' → 0x20 ≤ c.toNat → (ascii = true → c.toNat < 0x7f) →
      IsEscape ascii c [c]
  | unit {c : Char} : c.toNat < 0x10000 → IsEscape ascii c (unitEscape c.toNat)
  | halves {c : Char} : 0x10000 ≤ c.toNat → IsEscape ascii c
      (unitEscape (0xd800 + (c.toNat - 0x10000) / 0x400) ++ unitEscape (0xdc00 + (c.toNat - 0x10000) % 0x400))

theorem isEscape_escapeChar (ascii : Bool) (c : Char) : IsEscape ascii c (escapeChar ascii c) := by
  unfold escapeChar
  split
  next special => exact .short (by simp_all [shortEscape?])
  split
  next newline => exact .short (by simp_all [shortEscape?])
  split
  next carriageReturn => exact .short (by simp_all [shortEscape?])
  split
  next tab => exact .short (by simp_all [shortEscape?])
  split
  next backspace =>
    rw [← Char.ofNat_toNat c, beq_iff_eq.mp backspace]
    exact .short rfl
  split
  next formFeed =>
    rw [← Char.ofNat_toNat c, beq_iff_eq.mp formFeed]
    exact .short rfl
  split
  next control => exact .unit (by omega)
  split
  next special _ _ _ _ _ visible narrow =>
    simp only [Bool.or_eq_true, beq_iff_eq, not_or] at special
    refine .plain special.1 special.2 (by omega) fun only => ?_
    simpa [only] using narrow
  split
  next basic => exact .unit basic
  next beyond => exact .halves (by omega)

theorem readChars_escapeChar (ascii : Bool) (c : Char) (more : rest ≠ []) :
    readChars opened (fuel + 1) (escapeChar ascii c ++ rest) =
      (readChars opened fuel rest).map (prepend c) := by
  have valid := Text.Utf8.toNat_isValid c
  have escape := isEscape_escapeChar ascii c
  generalize escapeChar ascii c = written at escape ⊢
  cases escape with
  | short short => exact readChars_short short
  | plain quote backslash visible _ => exact readChars_plain quote backslash visible
  | unit basic => rw [readChars_unit basic (by omega) more, Char.ofNat_toNat]
  | halves beyond => rw [readChars_halves beyond (by omega) more, Char.ofNat_toNat]

theorem escapeChar_ne_nil (ascii : Bool) (c : Char) : escapeChar ascii c ≠ [] := by
  have escape := isEscape_escapeChar ascii c
  generalize escapeChar ascii c = written at escape ⊢
  cases escape with
  | short | plain | unit => exact List.cons_ne_nil _ _
  | halves => exact List.append_ne_nil_of_left_ne_nil (List.cons_ne_nil _ _) _

theorem length_le_flatMap_escapeChar (ascii : Bool) (s : List Char) :
    s.length ≤ (s.flatMap (escapeChar ascii)).length := by
  induction s with
  | nil => simp
  | cons c s ih =>
      have one : 0 < (escapeChar ascii c).length := List.length_pos_iff.mpr (escapeChar_ne_nil ascii c)
      simp only [List.flatMap_cons, List.length_append, List.length_cons]
      omega

theorem readChars_flatMap_escapeChar (ascii : Bool) (s : List Char) (enough : s.length < fuel) :
    readChars opened fuel (s.flatMap (escapeChar ascii) ++ '"' :: rest) = .ok (s, rest) := by
  induction s generalizing fuel with
  | nil =>
      obtain ⟨fuel, rfl⟩ := Nat.exists_eq_succ_of_ne_zero (Nat.ne_zero_of_lt enough)
      exact readChars_quote
  | cons c s ih =>
      obtain ⟨fuel, rfl⟩ := Nat.exists_eq_succ_of_ne_zero (Nat.ne_zero_of_lt enough)
      rw [List.flatMap_cons, List.append_assoc, readChars_escapeChar ascii c (by simp),
        ih (Nat.lt_of_succ_lt_succ enough)]
      rfl

theorem readString_writeString (ascii : Bool) (s : String) (rest : List Char) :
    readString (s.toList.flatMap (escapeChar ascii) ++ '"' :: rest) = .ok (s, rest) := by
  have enough : s.toList.length < (s.toList.flatMap (escapeChar ascii) ++ '"' :: rest).length + 1 := by
    have := length_le_flatMap_escapeChar ascii s.toList
    rw [List.length_append]
    omega
  rw [readString, readChars_flatMap_escapeChar ascii s.toList enough]
  simp only [bind, Except.bind, String.ofList_toList]

/-! ## Characters of written strings -/

def IsPrinted (c : Char) : Prop := c = '\n' ∨ 0x20 ≤ c.toNat ∧ c.toNat < 0x7f

theorem isPrinted_digitChar : ∀ n < 16, 0x20 ≤ n.digitChar.toNat ∧ n.digitChar.toNat < 0x7f := by decide

theorem isPrinted_unitEscape (bound : n < 0x10000) : ∀ c ∈ unitEscape n, IsPrinted c := by
  have first : n / 0x1000 < 16 := by omega
  have mod (m : Nat) : m % 16 < 16 := Nat.mod_lt m (by decide)
  rw [unitEscape, Text.hex_four bound]
  simp only [List.forall_mem_cons]
  refine ⟨.inr (by decide), .inr (by decide), .inr (isPrinted_digitChar _ first), ?_, ?_, ?_, by simp⟩ <;>
    exact .inr (isPrinted_digitChar _ (mod _))

theorem isPrinted_of_shortEscape? {e c : Char} (short : shortEscape? e = some c) : IsPrinted e := by
  have letter : e ∈ ['"', '\\', '/', 'b', 'f', 'n', 'r', 't'] := by
    refine Decidable.byContradiction fun other => ?_
    simp only [List.mem_cons, List.not_mem_nil, or_false, not_or] at other
    simp [shortEscape?, other] at short
  simp only [List.mem_cons, List.not_mem_nil, or_false] at letter
  rcases letter with rfl | rfl | rfl | rfl | rfl | rfl | rfl | rfl <;> exact .inr (by decide)

theorem isPrinted_escapeChar (c : Char) : ∀ d ∈ escapeChar true c, IsPrinted d := by
  have valid := Text.Utf8.toNat_isValid c
  have escape := isEscape_escapeChar true c
  generalize escapeChar true c = written at escape ⊢
  cases escape with
  | short short =>
      simp only [List.forall_mem_cons]
      exact ⟨.inr (by decide), isPrinted_of_shortEscape? short, by simp⟩
  | plain _ _ visible narrow =>
      rw [List.forall_mem_singleton]
      exact .inr ⟨visible, narrow rfl⟩
  | unit basic => exact isPrinted_unitEscape basic
  | halves beyond =>
      rw [List.forall_mem_append]
      exact ⟨isPrinted_unitEscape (by omega), isPrinted_unitEscape (by omega)⟩

theorem isPrinted_writeString (s : String) : ∀ c ∈ writeString true s, IsPrinted c := by
  intro c member
  simp only [writeString, List.cons_append, List.mem_cons, List.mem_append, List.mem_flatMap] at member
  rcases member with rfl | ⟨d, -, escape⟩ | rfl | ended
  · exact .inr (by decide)
  · exact isPrinted_escapeChar d c escape
  · exact .inr (by decide)
  · cases ended

end Json

end EnvAudit
