/-!
# Hexadecimal digits

Digits as numbers below sixteen, read in either case and written in one.
-/

namespace Signpost.Hexadecimal

/-- The value of a digit. -/
def value? (c : Char) : Option Nat :=
  if c.isDigit then some (c.toNat - '0'.toNat)
  else if 'a' ≤ c ∧ c ≤ 'f' then some (c.toNat - 'a'.toNat + 10)
  else if 'A' ≤ c ∧ c ≤ 'F' then some (c.toNat - 'A'.toNat + 10)
  else none

/-- The digit of a number below sixteen, given the letter that stands for ten. -/
def digit (ten : Char) (n : Nat) : Char :=
  if n < 10 then Char.ofNat ('0'.toNat + n) else Char.ofNat (ten.toNat + (n - 10))

/-- The digit of a number below sixteen, with a small letter. -/
def small (n : Nat) : Char := digit 'a' n

/-- The digit of a number below sixteen, with a capital letter. -/
def capital (n : Nat) : Char := digit 'A' n

end Signpost.Hexadecimal
