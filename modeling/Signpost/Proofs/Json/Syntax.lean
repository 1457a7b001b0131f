import Mathlib.Tactic.Common
import Signpost.Hexadecimal
import Signpost.Json.Outline
import Signpost.Proofs.Json.Numerals

/-!
# Text that is JSON

What text is JSON, said without a reader and without levels: a value with blanks around it or without (`IsText`), where a
number has a sign, a whole part, a fraction and a power (`IsNumber`), and a string is made of characters and escapes
(`IsString`).  Numbers that are written are such numbers (`isNumber_toString`, `isNumber_write`), and so are strings if
each character is written as one (`isString_flatMap`).
-/

namespace Signpost.Json

/-! ### Numbers -/

/-- Digits, one or more. -/
def IsDigits (ds : List Char) : Prop := AreDigits ds ∧ ds ≠ []

/-- Digits that start with a zero only if there is no other. -/
def IsWhole (ds : List Char) : Prop := IsDigits ds ∧ ∀ es, ds = '0' :: es → es = []

/-- A point and digits, or nothing. -/
def IsFraction (cs : List Char) : Prop := cs = [] ∨ ∃ ds, cs = '.' :: ds ∧ IsDigits ds

/-- A power of ten, of which the digits may have a sign, or nothing. -/
def IsPower (cs : List Char) : Prop :=
  cs = [] ∨ ∃ e sign ds, cs = e :: (sign ++ ds) ∧ e ∈ ['e', 'E'] ∧ sign ∈ [[], ['+'], ['-']] ∧ IsDigits ds

/-- A number. -/
def IsNumber (cs : List Char) : Prop :=
  ∃ sign whole fraction power, cs = sign ++ (whole ++ (fraction ++ power)) ∧
    sign ∈ [[], ['-']] ∧ IsWhole whole ∧ IsFraction fraction ∧ IsPower power

theorem isNumber_numeral (negative plus : Bool) {n : Numeral} (h : n.Valid) :
    IsNumber ((if negative then ['-'] else []) ++ n.write plus) := by
  have hsign : (if negative then ['-'] else []) ∈ [[], ['-']] := by
    cases negative <;> decide
  have hfraction : IsFraction (Numeral.pointed n.fraction) := by
    cases hf : n.fraction with
    | none => exact .inl rfl
    | some fs => exact .inr ⟨fs, rfl, h.fraction fs hf⟩
  have hpower : IsPower (Numeral.powered plus n.power) := by
    cases hp : n.power with
    | none => exact .inl rfl
    | some p =>
      refine .inr ⟨'e', _, p.2, rfl, by decide, ?_, h.power p hp⟩
      cases p.1 <;> cases plus <;> decide
  exact ⟨_, _, _, _, rfl, hsign, ⟨h.whole, h.noZero⟩, hfraction, hpower⟩

theorem isNumber_toString (n : ℤ) : IsNumber (toString n).toList := by
  have h := isNumber_numeral (decide (n < 0)) false (Numeral.valid_toDigits n.natAbs)
  rwa [Numeral.write_whole, ← toList_toString_int] at h

theorem isNumber_write (l : Layout) (negative : Bool) (x : Magnitude) :
    IsNumber (l.write (.finite negative x)).toList := by
  obtain ⟨n, hvalid, hwrite⟩ := Numeral.exists_of_magnitude l x
  have h := isNumber_numeral negative l.plus hvalid
  rwa [hwrite, ← String.toList_ofList (l := _ ++ l.magnitude x)] at h

/-! ### Strings -/

/-- A hexadecimal digit. -/
def IsHexDigit (c : Char) : Prop := c.isDigit = true ∨ ('a' ≤ c ∧ c ≤ 'f') ∨ ('A' ≤ c ∧ c ≤ 'F')

instance (c : Char) : Decidable (IsHexDigit c) := inferInstanceAs (Decidable (_ ∨ _))

/-- A character of a string as it is written: for itself, as a letter behind a backslash, or as four digits. -/
inductive IsCharacter : List Char → Prop
  | plain {c : Char} (hc : 0x20 ≤ c.toNat) (hquote : c ≠ '"') (hback : c ≠ '\\') : IsCharacter [c]
  | letter {c : Char} (hc : c ∈ ['"', '\\', '/', 'b', 'f', 'n', 'r', 't']) : IsCharacter ['\\', c]
  | digits {a b c d : Char} (h : ∀ x ∈ [a, b, c, d], IsHexDigit x) : IsCharacter ['\\', 'u', a, b, c, d]

/-- A string in its quotes. -/
def IsString (cs : List Char) : Prop :=
  ∃ parts : List (List Char), cs = '"' :: (parts.flatten ++ ['"']) ∧ ∀ p ∈ parts, IsCharacter p

theorem isString_flatMap {write : Char → List Char} (h : ∀ c, IsCharacter (write c)) (cs : List Char) :
    IsString ('"' :: (cs.flatMap write ++ ['"'])) :=
  ⟨cs.map write, rfl, List.forall_mem_map.2 fun c _ => h c⟩

theorem isHexDigit_small : ∀ n < 16, IsHexDigit (Hexadecimal.small n) := by
  decide

theorem isCharacter_unit {n : ℕ} (hn : n < 0x100) :
    IsCharacter ['\\', 'u', '0', '0', Hexadecimal.small (n / 16), Hexadecimal.small (n % 16)] := by
  have hzero : IsHexDigit '0' := by decide
  have hhigh := isHexDigit_small (n / 16) (by omega)
  have hlow := isHexDigit_small (n % 16) (by omega)
  exact .digits (by simp [hzero, hhigh, hlow])

/-! ### Values -/

/-- Nothing but blanks. -/
def AreBlanks (cs : List Char) : Prop := ∀ c ∈ cs, c ∈ [' ', '\t', '\n', '\r']

/-- The key of an entry, with blanks around it or without. -/
def IsKey (cs : List Char) : Prop :=
  ∃ before key after, cs = before ++ (key ++ after) ∧ AreBlanks before ∧ IsString key ∧ AreBlanks after

/-- Text that is JSON: a value, with blanks around it or without. -/
inductive IsText : List Char → Prop
  | null : IsText ['n', 'u', 'l', 'l']
  | true : IsText ['t', 'r', 'u', 'e']
  | false : IsText ['f', 'a', 'l', 's', 'e']
  | number {cs} (h : IsNumber cs) : IsText cs
  | string {cs} (h : IsString cs) : IsText cs
  | array {items : List (List Char)} (h : ∀ cs ∈ items, IsText cs) :
    IsText ('[' :: ([','].intercalate items ++ [']']))
  | blankArray {bs} (h : AreBlanks bs) : IsText ('[' :: (bs ++ [']']))
  | object {entries : List (List Char × List Char)} (hkeys : ∀ e ∈ entries, IsKey e.1)
    (h : ∀ e ∈ entries, IsText e.2) :
    IsText ('{' :: ([','].intercalate (entries.map fun e => e.1 ++ ':' :: e.2) ++ ['}']))
  | blankObject {bs} (h : AreBlanks bs) : IsText ('{' :: (bs ++ ['}']))
  | blanks {before cs after} (hb : AreBlanks before) (h : IsText cs) (ha : AreBlanks after) :
    IsText (before ++ (cs ++ after))

theorem IsString.isKey {cs : List Char} (h : IsString cs) : IsKey cs :=
  ⟨[], cs, [], (List.append_nil cs).symm, List.forall_mem_nil _, h, List.forall_mem_nil _⟩

end Signpost.Json
