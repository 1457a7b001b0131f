/-!
# Punycode

Text beyond ASCII written in ASCII letters and digits. The characters of ASCII come first; after the
last hyphen, digits write how far to count up to each further character and to its place. The text is
read digit by digit: `Decoding` is what is known after each of them.
-/

namespace Signpost.Web.Punycode

/-- The value of a digit. -/
def digit? (c : Char) : Option Nat :=
  if 'a' ≤ c ∧ c ≤ 'z' then some (c.toNat - 'a'.toNat)
  else if 'A' ≤ c ∧ c ≤ 'Z' then some (c.toNat - 'A'.toNat)
  else if c.isDigit then some (c.toNat - '0'.toNat + 26)
  else none

/-- The value from which on a digit is not the last of its number. -/
def threshold (place bias : Nat) : Nat := min 26 (max 1 (place - bias))

/-- How often a number can be divided by 35 until it is small, and what is left, in steps of 36. -/
def reduce (delta steps : Nat) : Nat × Nat :=
  if 455 < delta then reduce (delta / 35) (steps + 36) else (delta, steps)
termination_by delta
decreasing_by omega

/-- The bias for the next number, after a number that put the `count`-th character in place. -/
def adapt (delta count : Nat) (isFirst : Bool) : Nat :=
  let delta := if isFirst then delta / 700 else delta / 2
  let (delta, steps) := reduce (delta + delta / count) 0
  steps + 36 * delta / (delta + 38)

/-- What is known while digits are read. -/
structure Decoding where
  output : List Char
  codePoint : Nat
  /-- The place of the next character, and the place that the current number counts from. -/
  index : Nat
  start : Nat
  bias : Nat
  /-- The weight and the place of the next digit in its number. -/
  weight : Nat
  place : Nat
  deriving Repr

namespace Decoding

/-- Before the first digit. -/
def begin (basic : List Char) : Decoding := ⟨basic, 128, 0, 0, 72, 1, 36⟩

/-- Whether no number is unfinished. -/
def isAtEnd (d : Decoding) : Bool := d.place = 36

/-- Puts a character in, if there is one with the code point that was counted up to. -/
def insert? (d : Decoding) (index : Nat) : Option Decoding :=
  let count := d.output.length + 1
  let n := d.codePoint + index / count
  let i := index % count
  if h : n.isValidChar then
    let output := d.output.take i ++ Char.ofNatAux n h :: d.output.drop i
    some ⟨output, n, i + 1, i + 1, adapt (index - d.start) count (d.start = 0), 1, 36⟩
  else none

/-- One more digit. -/
def step? (d : Decoding) (c : Char) : Option Decoding :=
  (digit? c).bind fun v =>
    let index := d.index + v * d.weight
    let t := threshold d.place d.bias
    if v < t then d.insert? index
    else some { d with index, weight := d.weight * (36 - t), place := d.place + 36 }

end Decoding

/-- The text that letters and digits write. -/
def decode? (cs : List Char) : Option (List Char) :=
  let tail := (cs.reverse.takeWhile (· ≠ '-')).reverse
  let basic := cs.take (cs.length - tail.length - 1)
  let tail := if cs.head? = some '-' && basic.isEmpty then cs else tail
  (tail.foldlM Decoding.step? (.begin basic)).bind fun d =>
    if d.isAtEnd then some d.output else none

end Signpost.Web.Punycode
