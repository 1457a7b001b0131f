import Signpost.Decimal.Shortest

/-!
# Number layouts

How the digits of a number are laid out: positionally with a point, or as a first digit, a fraction
and a power of ten. A `Layout` records where each form is used; the three layouts of this library
differ in nothing else. Text is read back by `Binary64.ofText?`, which rounds correctly.
-/

namespace Signpost

/-- Where positional notation ends, and how a power of ten is written. -/
structure Layout where
  /-- The powers of ten of the first digit that are written positionally. -/
  positional : Int → Bool
  /-- Whether a power of ten that is not negative has a plus sign. -/
  plus : Bool
  /-- Which of two equally short and equally near decimals is written. -/
  tie : Tie

namespace Layout

/-- Positional from `1e-4` up to below `1e16`. -/
def plain : Layout := ⟨fun p => -4 ≤ p && p < 16, false, .up⟩

/-- Positional from `1e-5` up to below `1e16`, and powers of ten carry their sign. -/
def signed : Layout := ⟨fun p => -5 ≤ p && p < 16, true, .even⟩

/-- Always positional. -/
def expanded : Layout := ⟨fun _ => true, false, .up⟩

private def zeros (n : Nat) : List Char := List.replicate n '0'

/-- The digits with a point in the right place; a whole number ends in `.0`. -/
def writePositional (d : Decimal) : List Char :=
  let ds := Nat.toDigits 10 d.digits
  if 0 ≤ d.exponent then ds ++ zeros d.exponent.toNat ++ ['.', '0']
  else
    let places := (-d.exponent).toNat
    if places < ds.length then
      ds.take (ds.length - places) ++ '.' :: ds.drop (ds.length - places)
    else '0' :: '.' :: (zeros (places - ds.length) ++ ds)

/-- One digit, the rest as a fraction if there is a rest, and the power of ten `p`. -/
def writeScientific (plus : Bool) (d : Decimal) (p : Int) : List Char :=
  let fraction : List Char → List Char
    | [] => []
    | ds => '.' :: ds
  let digits := match Nat.toDigits 10 d.digits with
    | [] => []
    | c :: ds => c :: fraction ds
  let sign := if p < 0 then ['-'] else if plus then ['+'] else []
  digits ++ 'e' :: (sign ++ Nat.toDigits 10 p.natAbs)

/-- A magnitude in this layout. -/
def magnitude (l : Layout) (x : Magnitude) : List Char :=
  let d := x.shortest l.tie
  let p := d.exponent + (Magnitude.digitCount d.digits : Int) - 1
  if x.mantissa = 0 then ['0', '.', '0']
  else if l.positional p then writePositional d
  else writeScientific l.plus d p

/-- A number in this layout. -/
def write (l : Layout) : Binary64 → String
  | .nan => "NaN"
  | .infinite negative => if negative then "-inf" else "inf"
  | .finite negative x => String.ofList ((if negative then ['-'] else []) ++ l.magnitude x)

end Layout

namespace Binary64

/-- The number nearest to `digits * 10 ^ exponent`; a number too large is infinite. Powers of ten far
outside the range of the format are not computed. -/
def ofDecimal (negative : Bool) (digits : Nat) (exponent : Int) : Binary64 :=
  let place := exponent + (Magnitude.digitCount digits : Int)
  if digits = 0 ∨ place < -400 then .finite negative .zero
  else if 400 < place then .infinite negative
  else
    match Magnitude.ofDecimal? digits exponent with
    | some x => .finite negative x
    | none => .infinite negative

/-- Takes the digits at the front of a text, and their value when they follow those of `n`. -/
def takeDigits (n : Nat) : List Char → Nat × List Char
  | [] => (n, [])
  | c :: cs =>
    if c.isDigit then takeDigits (10 * n + (c.toNat - '0'.toNat)) cs else (n, c :: cs)

/-- A power of ten, `e` followed by digits that may have a sign, or nothing at all. -/
def ofExponent? : List Char → Option Int
  | [] => some 0
  | c :: cs =>
    if c ≠ 'e' ∧ c ≠ 'E' then none
    else
      let (negative, ds) := match cs with
        | '-' :: ds => (true, ds)
        | '+' :: ds => (false, ds)
        | ds => (false, ds)
      match ds with
      | [] => none
      | _ =>
        match takeDigits 0 ds with
        | (n, []) => some (if negative then -n else n)
        | _ => none

/-- A number without its sign: digits that may have a point before, between or after them, and a
power of ten. -/
def ofUnsigned? (negative : Bool) (cs : List Char) : Option Binary64 :=
  let (whole, rest) := takeDigits 0 cs
  let (all, places, rest') := match rest with
    | '.' :: fs =>
      let (n, rest') := takeDigits whole fs
      (n, fs.length - rest'.length, rest')
    | _ => (whole, 0, rest)
  if cs.length - rest.length + places = 0 then none
  else (ofExponent? rest').map fun e => ofDecimal negative all (e - places)

/-- Reads a number: a sign, then digits or a name, in any case, for what has no digits. -/
def ofText? (text : String) : Option Binary64 :=
  let (negative, cs) := match text.toList with
    | '-' :: cs => (true, cs)
    | '+' :: cs => (false, cs)
    | cs => (false, cs)
  let name := String.ofList (cs.map Char.toLower)
  if name = "nan" then some .nan
  else if name = "inf" ∨ name = "infinity" then some (.infinite negative)
  else ofUnsigned? negative cs

end Binary64

end Signpost
