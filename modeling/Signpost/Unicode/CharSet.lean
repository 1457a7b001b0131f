/-!
# Character sets

A set of characters is given by its boundaries: the sorted code points at which membership changes.
A character lies in the set iff an odd number of boundaries are at most its code point
(`CharSet.contains`). The blank characters, which are dropped at the ends of a text, are such a set.
-/

namespace Signpost.Unicode

/-- A set of characters, as the sorted code points where membership begins or ends. -/
structure CharSet where
  boundaries : Array Nat

/-- Membership, by the parity of the boundaries passed. -/
def CharSet.contains (s : CharSet) (c : Char) : Bool :=
  (s.boundaries.takeWhile (· ≤ c.toNat)).size % 2 == 1

/-- White space of every kind, line and paragraph ends included. -/
def blank : CharSet := ⟨#[
  0x9, 0xE, 0x20, 0x21, 0x85, 0x86, 0xA0, 0xA1, 0x1680, 0x1681, 0x2000, 0x200B, 0x2028, 0x202A,
  0x202F, 0x2030, 0x205F, 0x2060, 0x3000, 0x3001]⟩

end Signpost.Unicode
