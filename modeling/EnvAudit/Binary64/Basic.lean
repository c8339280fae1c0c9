namespace EnvAudit

/-- A double. The mantissa of a finite one is below `2 ^ 53`, and at least `2 ^ 52` unless the
exponent is the least one, `-1074`. -/
inductive Binary64 where
  | nan
  | infinite (negative : Bool)
  | finite (negative : Bool) (mantissa : Nat) (exponent : Int)
  deriving DecidableEq, Repr, Inhabited

namespace Binary64

def roundQuotient (num den : Nat) : Nat :=
  let quotient := num / den
  let twice := 2 * (num % den)
  if den < twice || (twice == den && quotient % 2 == 1) then quotient + 1 else quotient

def scaleDown (num den : Nat) (exponent : Int) : Nat × Nat :=
  if 0 ≤ exponent then (num, den * Nat.pow 2 exponent.toNat) else (num * Nat.pow 2 (-exponent).toNat, den)

/-- The exponent for which a positive ratio has a mantissa of 53 bits, or the least exponent. -/
def exponentOf (num den : Nat) : Int :=
  let guess : Int := Int.ofNat num.log2 - Int.ofNat den.log2 - 52
  let (top, bottom) := scaleDown num den guess
  max (if top < bottom * Nat.pow 2 52 then guess - 1 else guess) (-1074)

def ofRatio (negative : Bool) (num den : Nat) : Binary64 :=
  if num == 0 then finite negative 0 (-1074)
  else
    let exponent := exponentOf num den
    let (top, bottom) := scaleDown num den exponent
    let mantissa := roundQuotient top bottom
    let (mantissa, exponent) :=
      if mantissa == Nat.pow 2 53 then (Nat.pow 2 52, exponent + 1) else (mantissa, exponent)
    if 971 < exponent then infinite negative else finite negative mantissa exponent

def ofDecimal (negative : Bool) (digits : Nat) (exponent : Int) : Binary64 :=
  let size : Int := Int.ofNat (Nat.toDigits 10 digits).length + exponent
  if digits == 0 || size < -330 then finite negative 0 (-1074)
  else if 310 < size then infinite negative
  else if 0 ≤ exponent then ofRatio negative (digits * Nat.pow 10 exponent.toNat) 1
  else ofRatio negative digits (Nat.pow 10 (-exponent).toNat)

def ofInt (n : Int) : Binary64 := ofRatio (n < 0) n.natAbs 1

def zero : Binary64 := finite false 0 (-1074)

def ratio (mantissa : Nat) (exponent : Int) : Nat × Nat :=
  if 0 ≤ exponent then (mantissa * Nat.pow 2 exponent.toNat, 1) else (mantissa, Nat.pow 2 (-exponent).toNat)

def signed (negative : Bool) (num : Nat) : Int := if negative then -Int.ofNat num else Int.ofNat num

def add : Binary64 → Binary64 → Binary64
  | nan, _ => nan
  | _, nan => nan
  | infinite s, infinite t => if s == t then infinite s else nan
  | infinite s, finite .. => infinite s
  | finite .., infinite t => infinite t
  | finite s m e, finite t n f =>
    let (a, b) := ratio m e
    let (c, d) := ratio n f
    let top := signed s (a * d) + signed t (c * b)
    if top == 0 then finite (s && t) 0 (-1074) else ofRatio (top < 0) top.natAbs (b * d)

def mul : Binary64 → Binary64 → Binary64
  | nan, _ => nan
  | _, nan => nan
  | infinite s, infinite t => infinite (s != t)
  | infinite s, finite t n _ => if n == 0 then nan else infinite (s != t)
  | finite s m _, infinite t => if m == 0 then nan else infinite (s != t)
  | finite s m e, finite t n f =>
    let (a, b) := ratio m e
    let (c, d) := ratio n f
    ofRatio (s != t) (a * c) (b * d)

def divNat (x : Binary64) (n : Nat) : Binary64 :=
  match x with
  | finite s m e =>
    let (a, b) := ratio m e
    ofRatio s a (b * n)
  | other => other

def neg : Binary64 → Binary64
  | nan => nan
  | infinite s => infinite !s
  | finite s m e => finite (!s) m e

def lt : Binary64 → Binary64 → Bool
  | nan, _ => false
  | _, nan => false
  | infinite s, infinite t => s && !t
  | infinite s, finite .. => s
  | finite .., infinite t => !t
  | finite s m e, finite t n f =>
    let (a, b) := ratio m e
    let (c, d) := ratio n f
    signed s (a * d) < signed t (c * b)

def max (x y : Binary64) : Binary64 := if lt x y then y else x

def toInt? : Binary64 → Option Int
  | finite s m e =>
    let (a, b) := ratio m e
    if a % b == 0 then some (signed s (a / b)) else none
  | _ => none

def isFinite : Binary64 → Bool
  | finite .. => true
  | _ => false

example : ofDecimal false 1 (-1) = finite false 0x1999999999999a (-56) := by decide +kernel

example : ofRatio false (2 ^ 1024 - 2 ^ 970) 1 = infinite false := by decide +kernel

example : ofDecimal false 5 (-324) = finite false 1 (-1074) := by decide +kernel

end Binary64

end EnvAudit
