/-!
# Binary floating point numbers

The numbers of the 64-bit binary format, held exactly: a finite number is a sign, a mantissa and an
exponent of two. The two ways in are exact: `Magnitude.ofRatio?` rounds a quotient of natural numbers
to the nearest magnitude, an exact half to the even mantissa, and `Magnitude.canonical` says which
pairs are magnitudes at all.
-/

namespace Signpost

/-- Which mantissas and exponents the format has. Each value is written in one way: the mantissa has
53 bits unless the exponent is the least one. -/
def Canonical (mantissa : Nat) (exponent : Int) : Prop :=
  mantissa < 0x20000000000000 ∧ -1074 ≤ exponent ∧ exponent ≤ 971 ∧ (0x10000000000000 ≤ mantissa ∨ exponent = -1074)

instance (mantissa : Nat) (exponent : Int) : Decidable (Canonical mantissa exponent) :=
  inferInstanceAs (Decidable (_ ∧ _))

/-- A finite number without its sign, `mantissa * 2 ^ exponent`. -/
structure Magnitude where
  mantissa : Nat
  exponent : Int
  canonical : Canonical mantissa exponent
  deriving DecidableEq, Repr

/-- A number of the 64-bit binary format. -/
inductive Binary64 where
  | nan
  | infinite (negative : Bool)
  | finite (negative : Bool) (magnitude : Magnitude)
  deriving DecidableEq, Repr

namespace Magnitude

/-- Nothing, with the least exponent. -/
def zero : Magnitude := ⟨0, -1074, by decide⟩

instance : Inhabited Magnitude := ⟨zero⟩

/-- The magnitude with these parts, if the format has it. -/
def make? (mantissa : Nat) (exponent : Int) : Option Magnitude :=
  if h : Canonical mantissa exponent then some ⟨mantissa, exponent, h⟩ else none

/-- The quotient `num / den` rounded to a natural number, an exact half to the even one. -/
def roundQuotient (num den : Nat) : Nat :=
  let q := num / den
  let twice := 2 * (num % den)
  if twice < den then q
  else if den < twice then q + 1
  else if q % 2 = 0 then q else q + 1

/-- The quotient `num / den` in units of `2 ^ e`, as numerator and denominator. -/
def inUnits (num den : Nat) (e : Int) : Nat × Nat :=
  if 0 ≤ e then (num, den * Nat.pow 2 e.toNat) else (num * Nat.pow 2 (-e).toNat, den)

/-- The exponent at which `num / den` has a mantissa of 53 bits, but never below the least one. -/
def exponentFor (num den : Nat) : Int :=
  let guess : Int := (Nat.log2 num : Int) - Nat.log2 den - 52
  let (n, d) := inUnits num den guess
  max (-1074) (if n < d * 0x10000000000000 then guess - 1 else guess)

/-- The magnitude nearest to `num / den`, an exact half going to the even mantissa; nothing if that
is beyond the largest magnitude. -/
def ofRatio? (num den : Nat) : Option Magnitude :=
  if num = 0 then some zero
  else
    let e := exponentFor num den
    let (n, d) := inUnits num den e
    let m := roundQuotient n d
    if m = 0x20000000000000 then make? 0x10000000000000 (e + 1) else make? m e

/-- The exact value as a quotient. -/
def toRatio (x : Magnitude) : Nat × Nat :=
  if 0 ≤ x.exponent then (x.mantissa * Nat.pow 2 x.exponent.toNat, 1)
  else (x.mantissa, Nat.pow 2 (-x.exponent).toNat)

/-- The product, rounded. -/
def mul? (x y : Magnitude) : Option Magnitude :=
  let (a, b) := x.toRatio
  let (c, d) := y.toRatio
  ofRatio? (a * c) (b * d)

/-- The quotient, rounded; nothing if it is too large or `y` is zero. -/
def div? (x y : Magnitude) : Option Magnitude :=
  let (a, b) := x.toRatio
  let (c, d) := y.toRatio
  if c = 0 then none else ofRatio? (a * d) (b * c)

/-- The magnitude nearest to `digits * 10 ^ exponent`. -/
def ofDecimal? (digits : Nat) (exponent : Int) : Option Magnitude :=
  if 0 ≤ exponent then ofRatio? (digits * Nat.pow 10 exponent.toNat) 1
  else ofRatio? digits (Nat.pow 10 (-exponent).toNat)

end Magnitude

namespace Binary64

/-- Neither infinite nor undefined. -/
def isFinite : Binary64 → Bool
  | finite _ _ => true
  | _ => false

/-- Whether the sign is written; a zero has one too. -/
def isNegative : Binary64 → Bool
  | finite s _ => s
  | infinite s => s
  | nan => false

end Binary64

end Signpost
