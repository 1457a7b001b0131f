import Signpost.Decimal.Layout

/-!
# Order of binary numbers

Numbers are compared by their exact values. Zeros of both signs are equal, and what is undefined compares
with nothing.
-/

namespace Signpost

namespace Magnitude

/-- The order of exact values. -/
def order (x y : Magnitude) : Ordering :=
  let (a, b) := x.toRatio
  let (c, d) := y.toRatio
  compare (a * d) (c * b)

end Magnitude

namespace Binary64

/-- The order of two numbers, if both are defined. -/
def order? : Binary64 → Binary64 → Option Ordering
  | nan, _ | _, nan => none
  | infinite s, infinite t => some (compare t s)
  | infinite s, finite _ _ => some (if s then .lt else .gt)
  | finite _ _, infinite t => some (if t then .gt else .lt)
  | finite s x, finite t y =>
    if x.mantissa = 0 ∧ y.mantissa = 0 then some .eq
    else
      match s, t with
      | false, false => some (x.order y)
      | true, true => some (y.order x)
      | false, true => some .gt
      | true, false => some .lt

/-- The number nearest to a whole number. -/
def ofInt (n : Int) : Binary64 := ofDecimal (n < 0) n.natAbs 0

end Binary64

end Signpost
