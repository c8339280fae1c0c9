namespace EnvAudit.Text.Utf8

inductive Fault where
  /-- The byte at the position starts no character. -/
  | start (position : Nat) (byte : UInt8)
  /-- The `width` bytes from the position on are not followed by a byte that continues them. -/
  | continuation (position width : Nat) (byte : UInt8)
  /-- The text ends inside the character of which it holds `width` bytes. -/
  | truncated (position width : Nat) (byte : UInt8)
  deriving DecidableEq, Repr

namespace Fault

def place (position width : Nat) (byte : UInt8) : String :=
  if width ≤ 1 then
    let digits := Nat.toDigits 16 byte.toNat
    let padded := List.replicate (2 - digits.length) '0' ++ digits
    "byte 0x" ++ String.ofList padded ++ " in position " ++ toString position
  else "bytes in position " ++ toString position ++ "-" ++ toString (position + width - 1)

def message : Fault → String
  | start position byte =>
    "'utf-8' codec can't decode " ++ place position 1 byte ++ ": invalid start byte"
  | continuation position width byte =>
    "'utf-8' codec can't decode " ++ place position width byte ++ ": invalid continuation byte"
  | truncated position width byte =>
    "'utf-8' codec can't decode " ++ place position width byte ++ ": unexpected end of data"

end Fault

def encode (s : List Char) : List UInt8 := s.flatMap String.utf8EncodeChar

def expected (b : UInt8) : Option (Nat × Nat × Nat) :=
  let n := b.toNat
  if 0xc2 ≤ n && n ≤ 0xdf then some (1, 0x80, 0xbf)
  else if n == 0xe0 then some (2, 0xa0, 0xbf)
  else if n == 0xed then some (2, 0x80, 0x9f)
  else if 0xe1 ≤ n && n ≤ 0xef then some (2, 0x80, 0xbf)
  else if n == 0xf0 then some (3, 0x90, 0xbf)
  else if 0xf1 ≤ n && n ≤ 0xf3 then some (3, 0x80, 0xbf)
  else if n == 0xf4 then some (3, 0x80, 0x8f)
  else none

def leadBits (tails : Nat) (b : UInt8) : Nat :=
  match tails with
  | 1 => b.toNat % 0x20
  | 2 => b.toNat % 0x10
  | _ => b.toNat % 0x08

/-- Reads the `tails` bytes that complete a character, the next of which must lie between `low` and
`high`; `width` bytes of it are read. Returns the value read, or how many bytes form the fault and
whether the text ends there. -/
def readTails (value width : Nat) : Nat → Nat → Nat → List UInt8 → Except (Nat × Bool) Nat
  | 0, _, _, _ => .ok value
  | _ + 1, _, _, [] => .error (width, true)
  | tails + 1, low, high, b :: rest =>
    if low ≤ b.toNat && b.toNat ≤ high then
      readTails (value * 0x40 + b.toNat % 0x40) (width + 1) tails 0x80 0xbf rest
    else .error (width, false)

/-- Decodes the bytes from `position` on, the first `skip` of which belong to a character that is
read already. -/
def decodeFrom (position : Nat) : Nat → List UInt8 → Except Fault (List Char)
  | _, [] => .ok []
  | skip + 1, _ :: rest => decodeFrom (position + 1) skip rest
  | 0, b :: rest =>
    if b.toNat < 0x80 then (Char.ofNat b.toNat :: ·) <$> decodeFrom (position + 1) 0 rest
    else
      match expected b with
      | none => .error (.start position b)
      | some (tails, low, high) =>
        match readTails (leadBits tails b) 1 tails low high rest with
        | .error (width, true) => .error (.truncated position width b)
        | .error (width, false) => .error (.continuation position width b)
        | .ok value => (Char.ofNat value :: ·) <$> decodeFrom (position + 1) tails rest

def decode (bytes : List UInt8) : Except Fault (List Char) := decodeFrom 0 0 bytes

end EnvAudit.Text.Utf8
