import EnvAudit.Proofs.Failure
import EnvAudit.Text.Utf8

namespace EnvAudit.Text.Utf8

/-! ## Bytes -/

theorem toNat_ofNat {n : Nat} (byte : n < 0x100) : (UInt8.ofNat n).toNat = n := by
  simpa using Nat.mod_eq_of_lt byte

def tail (n : Nat) : UInt8 := UInt8.ofNat (n % 0x40 + 0x80)

theorem toNat_tail (n : Nat) : (tail n).toNat = n % 0x40 + 0x80 := toNat_ofNat (by omega)

variable {position value width tails low high : Nat} {rest : List UInt8}

theorem readTails_tail (n : Nat) (within : low ≤ n % 0x40 + 0x80 ∧ n % 0x40 + 0x80 ≤ high) :
    readTails value width (tails + 1) low high (tail n :: rest) =
      readTails (value * 0x40 + n % 0x40) (width + 1) tails 0x80 0xbf rest := by
  have bits : (n % 0x40 + 0x80) % 0x40 = n % 0x40 := by omega
  rw [readTails, toNat_tail, bits]
  simp [within]

theorem decodeFrom_skip (bytes : List UInt8) (position : Nat) :
    decodeFrom position bytes.length (bytes ++ rest) = decodeFrom (position + bytes.length) 0 rest := by
  induction bytes generalizing position with
  | nil => rfl
  | cons b bytes ih =>
      rw [List.length_cons, List.cons_append, decodeFrom, ih]
      congr 1
      omega

theorem decodeFrom_lead {b : UInt8} {bytes : List UInt8} (lead : 0x80 ≤ b.toNat)
    (expects : expected b = some (bytes.length, low, high))
    (read : readTails (leadBits bytes.length b) 1 bytes.length low high (bytes ++ rest) = .ok value) :
    decodeFrom position 0 (b :: bytes ++ rest) =
      (Char.ofNat value :: ·) <$> decodeFrom (position + (b :: bytes).length) 0 rest := by
  rw [List.cons_append, decodeFrom, if_neg (Nat.not_lt.mpr lead), expects]
  simp only [read]
  rw [decodeFrom_skip, List.length_cons, Nat.add_assoc, Nat.add_comm 1]

/-! ## Characters -/

theorem expected_two (n : Nat) (wide : 0x80 ≤ n ∧ n ≤ 0x7ff) :
    expected (UInt8.ofNat (n / 0x40 + 0xc0)) = some (1, 0x80, 0xbf) := by
  have lead : 0xc2 ≤ n / 0x40 + 0xc0 ∧ n / 0x40 + 0xc0 ≤ 0xdf := by omega
  simp only [expected, toNat_ofNat (show n / 0x40 + 0xc0 < 0x100 by omega)]
  simp [lead]

theorem expected_three (n : Nat) (wide : 0x800 ≤ n ∧ n ≤ 0xffff) (whole : n < 0xd800 ∨ 0xdfff < n) :
    ∃ low high, expected (UInt8.ofNat (n / 0x1000 + 0xe0)) = some (2, low, high) ∧
      low ≤ n / 0x40 % 0x40 + 0x80 ∧ n / 0x40 % 0x40 + 0x80 ≤ high := by
  simp only [expected, toNat_ofNat (show n / 0x1000 + 0xe0 < 0x100 by omega), Bool.and_eq_true, decide_eq_true_eq,
    beq_iff_eq]
  split
  next two => omega
  split
  next lowest => exact ⟨_, _, rfl, by omega, by omega⟩
  split
  next surrogates => exact ⟨_, _, rfl, by omega, by omega⟩
  split
  next => exact ⟨_, _, rfl, by omega, by omega⟩
  next => omega

theorem expected_four (n : Nat) (wide : 0xffff < n ∧ n < 0x110000) :
    ∃ low high, expected (UInt8.ofNat (n / 0x40000 + 0xf0)) = some (3, low, high) ∧
      low ≤ n / 0x1000 % 0x40 + 0x80 ∧ n / 0x1000 % 0x40 + 0x80 ≤ high := by
  simp only [expected, toNat_ofNat (show n / 0x40000 + 0xf0 < 0x100 by omega), Bool.and_eq_true, decide_eq_true_eq,
    beq_iff_eq]
  rw [if_neg (by omega), if_neg (by omega), if_neg (by omega), if_neg (by omega)]
  split
  next lowest => exact ⟨_, _, rfl, by omega, by omega⟩
  split
  next => exact ⟨_, _, rfl, by omega, by omega⟩
  split
  next highest => exact ⟨_, _, rfl, by omega, by omega⟩
  next => omega

theorem toNat_isValid (c : Char) : c.toNat < 0xd800 ∨ 0xdfff < c.toNat ∧ c.toNat < 0x110000 := c.valid

theorem encode_one {c : Char} (narrow : c.toNat ≤ 0x7f) : String.utf8EncodeChar c = [UInt8.ofNat c.toNat] := by
  have value : c.val.toNat = c.toNat := rfl
  rw [String.utf8EncodeChar, value, if_pos narrow]

theorem encode_two {c : Char} (wide : 0x7f < c.toNat ∧ c.toNat ≤ 0x7ff) :
    String.utf8EncodeChar c = [UInt8.ofNat (c.toNat / 0x40 + 0xc0), tail c.toNat] := by
  have lead : c.toNat / 0x40 % 0x20 = c.toNat / 0x40 := by omega
  have value : c.val.toNat = c.toNat := rfl
  rw [String.utf8EncodeChar, value, if_neg (by omega), if_pos wide.2, lead, tail]

theorem encode_three {c : Char} (wide : 0x7ff < c.toNat ∧ c.toNat ≤ 0xffff) : String.utf8EncodeChar c =
    [UInt8.ofNat (c.toNat / 0x1000 + 0xe0), tail (c.toNat / 0x40), tail c.toNat] := by
  have lead : c.toNat / 0x1000 % 0x10 = c.toNat / 0x1000 := by omega
  have value : c.val.toNat = c.toNat := rfl
  rw [String.utf8EncodeChar, value, if_neg (by omega), if_neg (by omega), if_pos wide.2, lead, tail, tail]

theorem encode_four {c : Char} (wide : 0xffff < c.toNat) : String.utf8EncodeChar c =
    [UInt8.ofNat (c.toNat / 0x40000 + 0xf0), tail (c.toNat / 0x1000), tail (c.toNat / 0x40), tail c.toNat] := by
  have valid := toNat_isValid c
  have lead : c.toNat / 0x40000 % 0x08 = c.toNat / 0x40000 := by omega
  have value : c.val.toNat = c.toNat := rfl
  rw [String.utf8EncodeChar, value, if_neg (by omega), if_neg (by omega), if_neg (by omega), lead, tail, tail,
    tail]

theorem within_tail (n : Nat) : 0x80 ≤ n % 0x40 + 0x80 ∧ n % 0x40 + 0x80 ≤ 0xbf := by omega

theorem decodeFrom_one {c : Char} (narrow : c.toNat ≤ 0x7f) :
    decodeFrom position 0 (String.utf8EncodeChar c ++ rest) =
    (c :: ·) <$> decodeFrom (position + (String.utf8EncodeChar c).length) 0 rest := by
  have byte : (UInt8.ofNat c.toNat).toNat = c.toNat := toNat_ofNat (by omega)
  rw [encode_one narrow, List.singleton_append, decodeFrom, byte, if_pos (by omega), Char.ofNat_toNat]
  rfl

theorem decodeFrom_two {c : Char} (wide : 0x7f < c.toNat ∧ c.toNat ≤ 0x7ff) :
    decodeFrom position 0 (String.utf8EncodeChar c ++ rest) =
      (c :: ·) <$> decodeFrom (position + (String.utf8EncodeChar c).length) 0 rest := by
  have lead : (UInt8.ofNat (c.toNat / 0x40 + 0xc0)).toNat = c.toNat / 0x40 + 0xc0 := toNat_ofNat (by omega)
  have bits : leadBits 1 (UInt8.ofNat (c.toNat / 0x40 + 0xc0)) = c.toNat / 0x40 := by
    rw [leadBits, lead]
    omega
  have value : c.toNat / 0x40 * 0x40 + c.toNat % 0x40 = c.toNat := by omega
  have read : readTails (c.toNat / 0x40) 1 1 0x80 0xbf ([tail c.toNat] ++ rest) = .ok c.toNat := by
    rw [List.cons_append, readTails_tail _ (within_tail _), readTails, value]
  rw [encode_two wide, decodeFrom_lead (by omega) (expected_two _ (by omega)) (bits ▸ read), Char.ofNat_toNat]

theorem decodeFrom_three {c : Char} (wide : 0x7ff < c.toNat ∧ c.toNat ≤ 0xffff) :
    decodeFrom position 0 (String.utf8EncodeChar c ++ rest) =
      (c :: ·) <$> decodeFrom (position + (String.utf8EncodeChar c).length) 0 rest := by
  have valid := toNat_isValid c
  have lead : (UInt8.ofNat (c.toNat / 0x1000 + 0xe0)).toNat = c.toNat / 0x1000 + 0xe0 := toNat_ofNat (by omega)
  have bits : leadBits 2 (UInt8.ofNat (c.toNat / 0x1000 + 0xe0)) = c.toNat / 0x1000 := by
    rw [leadBits, lead]
    omega
  have value : (c.toNat / 0x1000 * 0x40 + c.toNat / 0x40 % 0x40) * 0x40 + c.toNat % 0x40 = c.toNat := by omega
  obtain ⟨low, high, expects, range⟩ := expected_three c.toNat (by omega) (by omega)
  have read : readTails (c.toNat / 0x1000) 1 2 low high ([tail (c.toNat / 0x40), tail c.toNat] ++ rest) =
      .ok c.toNat := by
    rw [List.cons_append, List.cons_append, readTails_tail _ range, readTails_tail _ (within_tail _), readTails,
      value]
  rw [encode_three wide, decodeFrom_lead (by omega) expects (bits ▸ read), Char.ofNat_toNat]

theorem decodeFrom_four {c : Char} (wide : 0xffff < c.toNat) :
    decodeFrom position 0 (String.utf8EncodeChar c ++ rest) =
      (c :: ·) <$> decodeFrom (position + (String.utf8EncodeChar c).length) 0 rest := by
  have valid := toNat_isValid c
  have lead : (UInt8.ofNat (c.toNat / 0x40000 + 0xf0)).toNat = c.toNat / 0x40000 + 0xf0 := toNat_ofNat (by omega)
  have bits : leadBits 3 (UInt8.ofNat (c.toNat / 0x40000 + 0xf0)) = c.toNat / 0x40000 := by
    rw [leadBits, lead]
    · omega
    · decide
    · decide
  have value : ((c.toNat / 0x40000 * 0x40 + c.toNat / 0x1000 % 0x40) * 0x40 + c.toNat / 0x40 % 0x40) * 0x40 +
      c.toNat % 0x40 = c.toNat := by omega
  obtain ⟨low, high, expects, range⟩ := expected_four c.toNat (by omega)
  have read : readTails (c.toNat / 0x40000) 1 3 low high
      ([tail (c.toNat / 0x1000), tail (c.toNat / 0x40), tail c.toNat] ++ rest) = .ok c.toNat := by
    rw [List.cons_append, List.cons_append, List.cons_append, readTails_tail _ range,
      readTails_tail _ (within_tail _), readTails_tail _ (within_tail _), readTails, value]
  rw [encode_four wide, decodeFrom_lead (by omega) expects (bits ▸ read), Char.ofNat_toNat]

theorem decodeFrom_encodeChar (c : Char) (position : Nat) (rest : List UInt8) :
    decodeFrom position 0 (String.utf8EncodeChar c ++ rest) =
      (c :: ·) <$> decodeFrom (position + (String.utf8EncodeChar c).length) 0 rest := by
  by_cases one : c.toNat ≤ 0x7f
  · exact decodeFrom_one one
  by_cases two : c.toNat ≤ 0x7ff
  · exact decodeFrom_two (by omega)
  by_cases three : c.toNat ≤ 0xffff
  · exact decodeFrom_three (by omega)
  · exact decodeFrom_four (by omega)

/-! ## Texts -/

theorem decodeFrom_encode (s : List Char) (position : Nat) : decodeFrom position 0 (encode s) = .ok s := by
  induction s generalizing position with
  | nil => rfl
  | cons c s ih =>
      rw [encode, List.flatMap_cons, decodeFrom_encodeChar, ← encode, ih]
      rfl

theorem decode_encode (s : List Char) : decode (encode s) = .ok s := decodeFrom_encode s 0

/-! ## What can be decoded -/

theorem ofNat_eq {b : UInt8} {n : Nat} (same : n = b.toNat) : UInt8.ofNat n = b := by
  rw [same, UInt8.ofNat_toNat]

theorem tail_eq {b : UInt8} {n : Nat} (continues : 0x80 ≤ b.toNat ∧ b.toNat ≤ 0xbf)
    (bits : n % 0x40 = b.toNat % 0x40) : tail n = b := ofNat_eq (by omega)

theorem readTails_eq_ok {result : Nat} {bytes : List UInt8}
    (read : readTails value width (tails + 1) low high bytes = .ok result) :
    ∃ b rest, bytes = b :: rest ∧ low ≤ b.toNat ∧ b.toNat ≤ high ∧
      readTails (value * 0x40 + b.toNat % 0x40) (width + 1) tails 0x80 0xbf rest = .ok result := by
  cases bytes with
  | nil => cases read
  | cons b rest =>
      rw [readTails] at read
      split at read
      next within =>
        simp only [Bool.and_eq_true, decide_eq_true_eq] at within
        exact ⟨b, rest, rfl, within.1, within.2, read⟩
      next => cases read

/-- What may follow a byte that starts a character. No character has a shorter sequence than the one that is read, none
is half of a surrogate pair, and none lies beyond the last. -/
inductive Expects (n : Nat) : Nat → Nat → Nat → Prop where
  | two : 0xc2 ≤ n → n ≤ 0xdf → Expects n 1 0x80 0xbf
  | three {low high : Nat} : 0xe0 ≤ n → n ≤ 0xef → 0x80 ≤ low → high ≤ 0xbf → (n = 0xe0 → 0xa0 ≤ low) →
      (n = 0xed → high ≤ 0x9f) → Expects n 2 low high
  | four {low high : Nat} : 0xf0 ≤ n → n ≤ 0xf4 → 0x80 ≤ low → high ≤ 0xbf → (n = 0xf0 → 0x90 ≤ low) →
      (n = 0xf4 → high ≤ 0x8f) → Expects n 3 low high

theorem expects_of_expected {b : UInt8} (expects : expected b = some (tails, low, high)) :
    Expects b.toNat tails low high := by
  simp only [expected, Bool.and_eq_true, decide_eq_true_eq, beq_iff_eq] at expects
  split at expects
  next range =>
    cases expects
    exact .two range.1 range.2
  repeat'
    split at expects
    next range =>
      cases expects
      first
        | exact .three (by omega) (by omega) (by omega) (by omega) (by omega) (by omega)
        | exact .four (by omega) (by omega) (by omega) (by omega) (by omega) (by omega)
  cases expects

theorem toNat_charOfNat {n : Nat} (valid : n < 0xd800 ∨ 0xdfff < n ∧ n < 0x110000) : (Char.ofNat n).toNat = n := by
  rw [Char.ofNat, dif_pos valid]
  rfl

theorem encode_of_readTails {b : UInt8} {bytes : List UInt8} (expects : expected b = some (tails, low, high))
    (read : readTails (leadBits tails b) 1 tails low high bytes = .ok value) :
    ∃ front behind, bytes = front ++ behind ∧ front.length = tails ∧
      String.utf8EncodeChar (Char.ofNat value) = b :: front := by
  cases expects_of_expected expects with
  | two first last =>
      obtain ⟨b₁, behind, rfl, low₁, high₁, read⟩ := readTails_eq_ok read
      simp only [readTails, leadBits, Except.ok.injEq] at read
      have code : (Char.ofNat value).toNat = value := toNat_charOfNat (by omega)
      refine ⟨[b₁], behind, rfl, rfl, ?_⟩
      rw [encode_two (by omega), code, tail_eq (b := b₁) ⟨low₁, high₁⟩ (by omega), ofNat_eq (b := b) (by omega)]
  | three first last above below short surrogate =>
      obtain ⟨b₁, bytes, rfl, low₁, high₁, read⟩ := readTails_eq_ok read
      obtain ⟨b₂, behind, rfl, low₂, high₂, read⟩ := readTails_eq_ok read
      simp only [readTails, leadBits, Except.ok.injEq] at read
      have code : (Char.ofNat value).toNat = value := toNat_charOfNat (by omega)
      refine ⟨[b₁, b₂], behind, rfl, rfl, ?_⟩
      rw [encode_three (by omega), code, tail_eq (b := b₁) (by omega) (by omega),
        tail_eq (b := b₂) ⟨low₂, high₂⟩ (by omega), ofNat_eq (b := b) (by omega)]
  | four first last above below short beyond =>
      obtain ⟨b₁, bytes, rfl, low₁, high₁, read⟩ := readTails_eq_ok read
      obtain ⟨b₂, bytes, rfl, low₂, high₂, read⟩ := readTails_eq_ok read
      obtain ⟨b₃, behind, rfl, low₃, high₃, read⟩ := readTails_eq_ok read
      simp only [readTails, leadBits, Except.ok.injEq] at read
      have code : (Char.ofNat value).toNat = value := toNat_charOfNat (by omega)
      refine ⟨[b₁, b₂, b₃], behind, rfl, rfl, ?_⟩
      rw [encode_four (by omega), code, tail_eq (b := b₁) (by omega) (by omega),
        tail_eq (b := b₂) ⟨low₂, high₂⟩ (by omega), tail_eq (b := b₃) ⟨low₃, high₃⟩ (by omega),
        ofNat_eq (b := b) (by omega)]

theorem exists_of_decodeFrom {b : UInt8} {bytes : List UInt8} {s : List Char}
    (read : decodeFrom position 0 (b :: bytes) = .ok s) :
    ∃ c t front behind, s = c :: t ∧ bytes = front ++ behind ∧ String.utf8EncodeChar c = b :: front ∧
      decodeFrom (position + 1 + front.length) 0 behind = .ok t := by
  rw [decodeFrom] at read
  split at read
  next narrow =>
    obtain ⟨t, later, rfl⟩ := ok_of_map read
    have code : (Char.ofNat b.toNat).toNat = b.toNat := toNat_charOfNat (by omega)
    refine ⟨_, t, [], bytes, rfl, rfl, ?_, later⟩
    rw [encode_one (by omega), code, ofNat_eq rfl]
  next =>
    split at read
    next => cases read
    next tails low high expects =>
      split at read
      next => cases read
      next => cases read
      next value body =>
        obtain ⟨front, behind, rfl, rfl, encodes⟩ := encode_of_readTails expects body
        rw [decodeFrom_skip] at read
        obtain ⟨t, later, rfl⟩ := ok_of_map read
        exact ⟨_, t, front, behind, rfl, rfl, encodes, later⟩

theorem encode_of_decodeFrom {bytes : List UInt8} {s : List Char} (read : decodeFrom position 0 bytes = .ok s) :
    encode s = bytes := by
  induction s generalizing position bytes with
  | nil =>
      cases bytes with
      | nil => rfl
      | cons b bytes =>
          obtain ⟨c, t, front, behind, same, -⟩ := exists_of_decodeFrom read
          cases same
  | cons c s ih =>
      cases bytes with
      | nil => cases read
      | cons b bytes =>
          obtain ⟨_, _, front, behind, same, rfl, encodes, later⟩ := exists_of_decodeFrom read
          obtain ⟨rfl, rfl⟩ := List.cons.inj same
          rw [encode, List.flatMap_cons, ← encode, encodes, ih later]
          rfl

/-- Bytes are decoded as a text exactly if they are its encoding. -/
theorem decode_eq_ok_iff {bytes : List UInt8} {s : List Char} : decode bytes = .ok s ↔ bytes = encode s :=
  ⟨fun read => (encode_of_decodeFrom read).symm, fun encoded => encoded ▸ decode_encode s⟩

end EnvAudit.Text.Utf8
