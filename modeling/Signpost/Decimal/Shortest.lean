import Signpost.Decimal.Binary64

/-!
# Shortest decimals

The fewest decimal digits that read back as a given magnitude, and of those the nearest to it.
For one digit, two digits and so on, the two neighbours of the value on the decimal grid of that many
digits are compared with the interval of numbers that round to the value; the first grid with a
neighbour inside wins, and of two such neighbours the nearer. Which one wins an exact tie is left to
the caller.
-/

namespace Signpost

/-- A decimal `digits * 10 ^ exponent`. -/
structure Decimal where
  digits : Nat
  exponent : Int
  deriving DecidableEq, Repr

namespace Decimal

/-- Drops zeros at the end of the digits, at most `fuel` of them. -/
def trimZeros : Nat → Decimal → Decimal
  | 0, d => d
  | fuel + 1, d =>
    if d.digits ≠ 0 ∧ d.digits % 10 = 0 then trimZeros fuel ⟨d.digits / 10, d.exponent + 1⟩ else d

end Decimal

/-- Which of two equally near decimals is taken: the greater one, or the one with an even last digit. -/
inductive Tie where
  | up
  | even

namespace Magnitude

/-- The value and the ends of the interval that rounds to it, all over one denominator. -/
structure Neighbourhood where
  low : Nat
  value : Nat
  high : Nat
  den : Nat
  /-- Whether the ends themselves round to the value. -/
  closed : Bool

/-- Half a unit to either side; below the first mantissa of an exponent units are half as wide. -/
def neighbourhood (x : Magnitude) : Neighbourhood :=
  let m := 4 * x.mantissa
  let below := if x.mantissa = 0x10000000000000 ∧ x.exponent ≠ -1074 then 1 else 2
  let e := x.exponent - 2
  let up := Nat.pow 2 e.toNat
  ⟨(m - below) * up, m * up, (m + 2) * up, Nat.pow 2 (-e).toNat, x.mantissa % 2 = 0⟩

namespace Neighbourhood

/-- Whether `n * 10 ^ e` lies in the interval. -/
def contains (w : Neighbourhood) (n : Nat) (e : Int) : Bool :=
  let p := n * Nat.pow 10 e.toNat * w.den
  let scale := Nat.pow 10 (-e).toNat
  let low := w.low * scale
  let high := w.high * scale
  if w.closed then low ≤ p && p ≤ high else low < p && p < high

/-- The grid point of step `10 ^ e` next below the value, or at it. -/
def floorAt (w : Neighbourhood) (e : Int) : Nat :=
  w.value * Nat.pow 10 (-e).toNat / (w.den * Nat.pow 10 e.toNat)

/-- The nearer of the grid points `n` and `n + 1`; of two equally near ones the one that `tie` takes. -/
def nearer (w : Neighbourhood) (tie : Tie) (n : Nat) (e : Int) : Nat :=
  let twice := 2 * (w.value * Nat.pow 10 (-e).toNat)
  let middle := (2 * n + 1) * (w.den * Nat.pow 10 e.toNat)
  if twice < middle then n
  else if middle < twice then n + 1
  else match tie with
    | .up => n + 1
    | .even => if n % 2 = 0 then n else n + 1

/-- A neighbour of the value on the grid of step `10 ^ e` that reads back as the value. -/
def onGrid? (w : Neighbourhood) (tie : Tie) (e : Int) : Option Nat :=
  let n := w.floorAt e
  match w.contains n e, w.contains (n + 1) e with
  | true, true => some (w.nearer tie n e)
  | true, false => some n
  | false, true => some (n + 1)
  | false, false => none

/-- Tries finer and finer grids, at most `fuel` of them. -/
def search (w : Neighbourhood) (tie : Tie) : Nat → Int → Option Decimal
  | 0, _ => none
  | fuel + 1, e =>
    match w.onGrid? tie e with
    | some n => some ⟨n, e⟩
    | none => search w tie fuel (e - 1)

end Neighbourhood

/-- The number of decimal digits of `n`. -/
def digitCount (n : Nat) : Nat := (Nat.toDigits 10 n).length

/-- The power of ten of the first digit of `num / den`. -/
def leadingPlace (num den : Nat) : Int :=
  let guess : Int := (digitCount num : Int) - digitCount den
  if num * Nat.pow 10 (-guess).toNat < den * Nat.pow 10 guess.toNat then guess - 1 else guess

/-- The fewest digits that read back as the magnitude. -/
def shortest (tie : Tie) (x : Magnitude) : Decimal :=
  let w := x.neighbourhood
  match w.search tie 17 (leadingPlace w.value w.den) with
  | some d => d.trimZeros 17
  | none => ⟨0, 0⟩

end Magnitude

end Signpost
