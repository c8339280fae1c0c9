/-!
# Whole numbers in decimal notation

A number of more than 4300 digits is not read, and `render?` refuses to write it, since either would take
quadratic time. `render` knows no bound. It writes what is counted and the numbers of lines; only a verdict that is
put together by hand could hold longer ones, and they are written in text and JUnit reports all the same.
-/

namespace EnvAudit.Numeral

def maxDigits : Nat := 4300

def ofDigits (digits : List Char) : Nat :=
  digits.foldl (fun value c => value * 10 + (c.toNat - '0'.toNat)) 0

def digits (n : Nat) : List Char := Nat.toDigits 10 n

def render (n : Int) : String :=
  String.ofList (if n < 0 then '-' :: digits n.natAbs else digits n.natAbs)

def tooManyDigitsRead (count : Nat) : String :=
  "Exceeds the limit (4300 digits) for integer string conversion: value has " ++ toString count ++
    " digits; use sys.set_int_max_str_digits() to increase the limit"

def tooManyDigitsWritten : String :=
  "Exceeds the limit (4300 digits) for integer string conversion; " ++
    "use sys.set_int_max_str_digits() to increase the limit"

def render? (n : Int) : Except String String :=
  if n.natAbs < Nat.pow 10 maxDigits then .ok (render n) else .error tooManyDigitsWritten

def zeroPad (width : Nat) (text : List Char) : List Char :=
  List.replicate (width - text.length) '0' ++ text

def hexValue? (c : Char) : Option Nat :=
  if c.isDigit then some (c.toNat - '0'.toNat)
  else if 'a' ≤ c && c ≤ 'f' then some (c.toNat - 'a'.toNat + 10)
  else if 'A' ≤ c && c ≤ 'F' then some (c.toNat - 'A'.toNat + 10)
  else none

end EnvAudit.Numeral
