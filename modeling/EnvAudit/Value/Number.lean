import EnvAudit.Binary64.Decimal
import EnvAudit.Text.Blank
import EnvAudit.Text.Letter

namespace EnvAudit.Value

open Text

def plainNumeral (c : Char) : Char :=
  if c.toNat < 0x80 then c
  else
    match digitValue? c with
    | some n => Char.ofNat (0x30 + n)
    | none => '?'

def baseOf? (c : Char) : Option Nat :=
  if c == 'x' || c == 'X' then some 16
  else if c == 'o' || c == 'O' then some 8
  else if c == 'b' || c == 'B' then some 2
  else none

def isDigitOf (base : Nat) (c : Char) : Bool := (Numeral.hexValue? c).any (· < base)

def isBased (s : List Char) : Bool :=
  match (Binary64.takeSign s).2 with
  | '0' :: c :: digits =>
    match baseOf? c with
    | some base => !digits.isEmpty && digits.all (isDigitOf base)
    | none => false
  | _ => false

def isNumber (value : String) : Bool :=
  let s := (trim value.toList).map plainNumeral
  if s.contains '_' then false
  else
    match Binary64.read? s with
    | some x => x.isFinite
    | none => isBased s

example : isNumber " 1e3 " ∧ isNumber "-0x1F" ∧ ¬ isNumber "1e999" ∧ ¬ isNumber "1_0" := by decide +kernel

end EnvAudit.Value
