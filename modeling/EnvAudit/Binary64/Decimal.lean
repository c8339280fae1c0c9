import EnvAudit.Binary64.Basic
import EnvAudit.Numeral

/-!
# Decimal notation of doubles

`shortest` gives the fewest digits that read back as the same double, and of those the nearest;
`render` writes them positionally between `10 ^ -4` and `10 ^ 16` and with an exponent elsewhere.
`fixed` writes a fixed number of places, a tie to the even digit. `read?` reads the usual notations.
-/

namespace EnvAudit.Binary64

open Numeral

def raisePower (num den : Nat) (guess : Int) : Nat → Int
  | 0 => guess
  | fuel + 1 =>
    let next := guess + 1
    let reached :=
      if 0 ≤ next then den * Nat.pow 10 next.toNat ≤ num else den ≤ num * Nat.pow 10 (-next).toNat
    if reached then raisePower num den next fuel else guess

def powerOfTen (num den : Nat) : Int :=
  let bits : Int := Int.ofNat num.log2 - Int.ofNat den.log2
  raisePower num den (bits * 30103 / 100000 - 2) 5

def shift (num den : Nat) (power : Int) : Nat × Nat :=
  if 0 ≤ power then (num, den * Nat.pow 10 power.toNat) else (num * Nat.pow 10 (-power).toNat, den)

def onGrid? (mantissa : Nat) (exponent power : Int) : Option Nat :=
  let x := finite false mantissa exponent
  let (a, b) := ratio mantissa exponent
  let (top, bottom) := shift a b power
  let below := top / bottom
  let reads := fun digits => ofDecimal false digits power == x
  let nearest := roundQuotient top bottom
  if reads nearest then some nearest
  else if reads below then some below
  else if reads (below + 1) then some (below + 1)
  else none

/-- The shortest digits of a positive double, with the power of ten of the last one; at least `count`
digits are tried, and at most `count + fuel`. -/
def shortestFrom (mantissa : Nat) (exponent power : Int) (count : Nat) : Nat → Nat × Int
  | 0 => (0, 0)
  | fuel + 1 =>
    let last := power - Int.ofNat count + 1
    match onGrid? mantissa exponent last with
    | some digits => (digits, last)
    | none => shortestFrom mantissa exponent power (count + 1) fuel

/-- The fewest digits that read back as the positive double `mantissa · 2 ^ exponent`, the nearest of
these to it, and the power of ten of the last digit. -/
def shortest (mantissa : Nat) (exponent : Int) : Nat × Int :=
  let (a, b) := ratio mantissa exponent
  shortestFrom mantissa exponent (powerOfTen a b) 1 17

def dropTrailingZeros (s : List Char) : List Char := (s.reverse.dropWhile (· == '0')).reverse

def positional (text : List Char) (whole : Int) : List Char :=
  if whole ≤ 0 then '0' :: '.' :: List.replicate (-whole).toNat '0' ++ text
  else
    let n := whole.toNat
    if text.length ≤ n then text ++ List.replicate (n - text.length) '0' ++ ['.', '0']
    else text.take n ++ '.' :: text.drop n

def scientific (text : List Char) (exponent : Int) : List Char :=
  let head := text.take 1 ++ (if text.length ≤ 1 then [] else '.' :: text.drop 1)
  let sign := if exponent < 0 then '-' else '+'
  head ++ 'e' :: sign :: zeroPad 2 (digits exponent.natAbs)

def render : Binary64 → String
  | nan => "nan"
  | infinite negative => if negative then "-inf" else "inf"
  | finite negative mantissa exponent =>
    let body :=
      if mantissa == 0 then ['0', '.', '0']
      else
        let (value, last) := shortest mantissa exponent
        let text := digits value
        let power := last + Int.ofNat text.length - 1
        let text := dropTrailingZeros text
        if -4 ≤ power && power < 16 then positional text (power + 1) else scientific text power
    String.ofList (if negative then '-' :: body else body)

def fixed (places : Nat) : Binary64 → String
  | nan => "nan"
  | infinite negative => if negative then "-inf" else "inf"
  | finite negative mantissa exponent =>
    let (a, b) := ratio mantissa exponent
    let scaled := roundQuotient (a * Nat.pow 10 places) b
    let text := zeroPad (places + 1) (digits scaled)
    let whole := text.take (text.length - places)
    let body := if places == 0 then whole else whole ++ '.' :: text.drop (text.length - places)
    String.ofList (if negative then '-' :: body else body)

def spanDigits (s : List Char) : List Char × List Char := (s.takeWhile Char.isDigit, s.dropWhile Char.isDigit)

def takeSign : List Char → Bool × List Char
  | '-' :: rest => (true, rest)
  | '+' :: rest => (false, rest)
  | s => (false, s)

structure Notation where
  negative : Bool
  whole : List Char
  fraction : List Char
  exponent : Int
  deriving DecidableEq, Repr

def readExponent? : List Char → Option Int
  | [] => some 0
  | c :: rest =>
    if c == 'e' || c == 'E' then
      let (negative, rest) := takeSign rest
      let (digits, rest) := spanDigits rest
      if digits.isEmpty || !rest.isEmpty then none
      else some (if negative then -Int.ofNat (ofDigits digits) else Int.ofNat (ofDigits digits))
    else none

def Notation.read? (s : List Char) : Option Notation :=
  let (negative, rest) := takeSign s
  let (whole, rest) := spanDigits rest
  let (fraction, rest) :=
    match rest with
    | '.' :: rest => spanDigits rest
    | _ => ([], rest)
  if whole.isEmpty && fraction.isEmpty then none
  else (readExponent? rest).map fun exponent => ⟨negative, whole, fraction, exponent⟩

def Notation.value (n : Notation) : Binary64 :=
  ofDecimal n.negative (ofDigits (n.whole ++ n.fraction)) (n.exponent - Int.ofNat n.fraction.length)

def readWord? (s : List Char) : Option Binary64 :=
  let (negative, rest) := takeSign s
  let word := String.ofList (rest.map Char.toLower)
  if word == "inf" || word == "infinity" then some (infinite negative)
  else if word == "nan" then some nan
  else none

def read? (s : List Char) : Option Binary64 :=
  match Notation.read? s with
  | some n => some n.value
  | none => readWord? s

example : render (ofDecimal false 1 (-1)) = "0.1" ∧ render (ofDecimal false 5 (-324)) = "5e-324" := by
  decide +kernel

example : render (ofDecimal false 1 16) = "1e+16" ∧ render (ofDecimal false 12 0) = "12.0" := by
  decide +kernel

example : fixed 2 (ofDecimal false 125 (-3)) = "0.12" := by decide +kernel

end EnvAudit.Binary64
