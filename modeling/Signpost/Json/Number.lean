import Signpost.Json.Fault
import Signpost.Decimal.Layout

/-!
# Numbers in JSON text

A number is cut into its parts by the grammar (`NumberText.scan`) and then given a value. Whole numbers
of 64 bits stay whole; minus zero and everything else becomes a binary floating point number, by a rule
that is a parameter: `RealRule.scaled` keeps as many digits as fit into 64 bits and scales them by a
power of ten, rounding twice; `RealRule.nearest` rounds once.
-/

namespace Signpost.Json

/-- A number: whole, from `-2 ^ 63` to below `2 ^ 64`, or floating. -/
inductive Number where
  | int (n : Int)
  | real (x : Binary64)
  deriving DecidableEq, Repr

/-- The parts of a number as written; digits are numbers below ten. -/
structure NumberText where
  negative : Bool
  whole : List Nat
  fraction : Option (List Nat)
  /-- Whether the power of ten is negative, and its digits. -/
  power : Option (Bool × List Nat)
  deriving Repr

/-- How a number with a point, a power of ten or too many digits gets its value; nothing if it is too
large. -/
abbrev RealRule := NumberText → Option Magnitude

namespace NumberText

/-- The number that digits write when they follow those of `n`. -/
def ofDigits (n : Nat) (ds : List Nat) : Nat := ds.foldl (fun n d => 10 * n + d) n

/-- The digits at the front of a text, and the rest. -/
def digits : List Char → List Nat × List Char
  | [] => ([], [])
  | c :: cs =>
    if c.isDigit then
      let (ds, rest) := digits cs
      ((c.toNat - '0'.toNat) :: ds, rest)
    else ([], c :: cs)

theorem length_digits_le (cs : List Char) : (digits cs).2.length ≤ cs.length := by
  induction cs with
  | nil => simp [digits]
  | cons c cs ih =>
    simp only [digits]
    split
    · simp; omega
    · simp

/-- Reads more digits into `n` while the result stays below `2 ^ 64`; gives the digits left over. -/
def fitDigits (n : Nat) : List Nat → Nat × List Nat
  | [] => (n, [])
  | d :: ds => if 0x10000000000000000 ≤ 10 * n + d then (n, d :: ds) else fitDigits (10 * n + d) ds

/-- What digits are wanted for and not found. -/
private def noDigits {α : Type} : List Char → Scanned α
  | [] => ⟨.error .endInValue, some .badNumber⟩
  | _ :: _ => .broken .badNumber

/-- The power of ten, if there is one. -/
def scanPower (t : NumberText) : List Char → Scanned NumberText × List Char
  | c :: cs =>
    if c = 'e' ∨ c = 'E' then
      let (negative, cs) : Bool × List Char := match cs with
        | '+' :: cs => (false, cs)
        | '-' :: cs => (true, cs)
        | cs => (false, cs)
      match digits cs with
      | ([], rest) => (noDigits rest, rest)
      | (ds, rest) => (⟨.ok { t with power := some (negative, ds) }, none⟩, rest)
    else (⟨.ok t, none⟩, c :: cs)
  | [] => (⟨.ok t, none⟩, [])

/-- The digits after a point, if there is one, and the power of ten. -/
def scanFraction (t : NumberText) : List Char → Scanned NumberText × List Char
  | '.' :: cs =>
    match digits cs with
    | ([], rest) => (noDigits rest, rest)
    | (ds, rest) => scanPower { t with fraction := some ds } rest
  | cs => scanPower t cs

/-- A number after its sign. A zero is not followed by another digit. -/
def scanUnsigned (negative : Bool) (cs : List Char) : Scanned NumberText × List Char :=
  match digits cs with
  | ([], rest) => (noDigits rest, rest)
  | (0 :: _ :: _, rest) => (.broken .badNumber, rest)
  | (ds, rest) => scanFraction ⟨negative, ds, none, none⟩ rest

/-- A number at the front of a text. -/
def scan : List Char → Scanned NumberText × List Char
  | '-' :: cs => scanUnsigned true cs
  | cs => scanUnsigned false cs

theorem length_scanPower_le (t : NumberText) (cs : List Char) :
    (scanPower t cs).2.length ≤ cs.length := by
  unfold scanPower
  split
  · rename_i c cs
    split
    · have h : ∀ ds : List Char, (digits ds).2.length ≤ ds.length := length_digits_le
      split
      rename_i neg ds heq
      have hds : ds.length ≤ cs.length := by
        split at heq <;> cases heq <;> simp
      have := h ds
      split <;> rename_i hd <;> rw [hd] at this <;> simp at this ⊢ <;> omega
    · simp
  · simp

theorem length_scanFraction_le (t : NumberText) (cs : List Char) :
    (scanFraction t cs).2.length ≤ cs.length := by
  unfold scanFraction
  split
  · rename_i cs
    have := length_digits_le cs
    split
    · rename_i hd; rw [hd] at this; simp at this ⊢; omega
    · rename_i ds rest _ hd
      rw [hd] at this
      have h := length_scanPower_le { t with fraction := some ds } rest
      simp at this ⊢; omega
  · exact length_scanPower_le _ _

theorem length_scanUnsigned_le (negative : Bool) (cs : List Char) :
    (scanUnsigned negative cs).2.length ≤ cs.length := by
  unfold scanUnsigned
  have := length_digits_le cs
  split <;> rename_i hd <;> rw [hd] at this
  · simpa using this
  · simpa using this
  · exact Nat.le_trans (length_scanFraction_le _ _) this

theorem length_scanUnsigned_lt (negative : Bool) (c : Char) (cs : List Char) (hc : c.isDigit) :
    (scanUnsigned negative (c :: cs)).2.length ≤ cs.length := by
  have hd : (digits (c :: cs)).2.length ≤ cs.length := by
    simpa [digits, hc] using length_digits_le cs
  unfold scanUnsigned
  split <;> rename_i h <;> rw [h] at hd
  · simpa using hd
  · simpa using hd
  · exact Nat.le_trans (length_scanFraction_le _ _) hd

/-- A number takes at least one character. -/
theorem length_scan_lt (c : Char) (cs : List Char) (hc : c = '-' ∨ c.isDigit = true) :
    (scan (c :: cs)).2.length < (c :: cs).length := by
  unfold scan
  split
  · rename_i ds h
    cases h
    have := length_scanUnsigned_le true cs
    simp; omega
  · rename_i h
    have hd : c.isDigit := by
      rcases hc with rfl | hd
      · exact absurd rfl (h cs)
      · exact hd
    have := length_scanUnsigned_lt false c cs hd
    simp; omega

end NumberText

namespace RealRule

/-- Divides by `10 ^ 308` until the power of ten is one the format has, at most `fuel` times. -/
def scale : Nat → Magnitude → Int → Option Magnitude
  | 0, _, _ => some .zero
  | fuel + 1, f, e =>
    if -308 ≤ e ∧ e ≤ 308 then
      (Magnitude.ofDecimal? 1 e.natAbs).bind fun p => if 0 ≤ e then f.mul? p else f.div? p
    else if f.mantissa = 0 then some .zero
    else if 0 ≤ e then none
    else ((Magnitude.ofDecimal? 1 308).bind f.div?).bind fun f => scale fuel f (e + 308)

/-- Keeps the digits that fit into 64 bits, rounds them, and scales the result by a power of ten. -/
def scaled : RealRule := fun t =>
  let (n, unread) := NumberText.fitDigits 0 t.whole
  let (n, places) : Nat × Nat := match t.fraction with
    | none => (n, 0)
    | some ds =>
      let (n, rest) := NumberText.fitDigits n ds
      (n, ds.length - rest.length)
  let start : Int := (unread.length : Int) - places
  let finish (e : Int) : Option Magnitude := (Magnitude.ofRatio? n 1).bind fun f => scale 4 f e
  match t.power with
  | none => finish start
  | some (negative, ds) =>
    let p := NumberText.ofDigits 0 ds
    if p < 0x80000000 then finish (if negative then start - p else start + p)
    else if n = 0 ∨ negative then some .zero
    else none

/-- Rounds the written value once. -/
def nearest : RealRule := fun t =>
  let fraction := t.fraction.getD []
  let n := NumberText.ofDigits (NumberText.ofDigits 0 t.whole) fraction
  let p : Int := match t.power with
    | none => 0
    | some (negative, ds) =>
      let p := NumberText.ofDigits 0 ds
      if negative then -p else p
  match Binary64.ofDecimal false n (p - fraction.length) with
  | .finite _ x => some x
  | _ => none

end RealRule

namespace Number

/-- The value of a number as written. -/
def ofText (rule : RealRule) (t : NumberText) : Except Fault Number :=
  let n := NumberText.ofDigits 0 t.whole
  if t.fraction.isNone ∧ t.power.isNone ∧
      (if t.negative then 0 < n ∧ n ≤ 0x8000000000000000 else n < 0x10000000000000000) then
    .ok (.int (if t.negative then -n else n))
  else
    match rule t with
    | some x => .ok (.real (.finite t.negative x))
    | none => .error .numberTooLarge

/-- The number at the front of a text, which starts with a digit or a minus sign. -/
def scan (rule : RealRule) (cs : List Char) : Scanned Number × List Char :=
  let (t, rest) := NumberText.scan cs
  (⟨t.read.bind (ofText rule), t.skip⟩, rest)

/-- The number as JSON. -/
def write : Number → String
  | int n => toString n
  | real x => Layout.signed.write x

end Number

end Signpost.Json
