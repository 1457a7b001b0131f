import Signpost.Json.Number
import Signpost.Proofs.Decimal.Shortest
import Signpost.Proofs.Except

/-!
# Numbers read back

A number in JSON text is a whole part, perhaps a fraction after a point, and perhaps a power of ten (`Numeral`).  In
front of anything that does not go on with it, the text of such parts is read as these parts (`scan_numeral`).  Every
layout writes the shortest decimal of a magnitude in this form, so that reading gives the number that was written
(`scan_write`), and so do whole numbers (`scan_toString`).
-/

namespace Signpost

/-! ### Digits -/

/-- The text consists of digits. -/
def AreDigits (ds : List Char) : Prop := ∀ d ∈ ds, d.isDigit = true

theorem areDigits_toDigits (n : ℕ) : AreDigits (Nat.toDigits 10 n) :=
  fun _ hd => Nat.isDigit_of_mem_toDigits (by decide) (by decide) hd

theorem areDigits_zeros (n : ℕ) : AreDigits (List.replicate n '0') := by
  intro d hd
  rw [List.eq_of_mem_replicate hd]
  rfl

theorem AreDigits.append {ds es : List Char} (hd : AreDigits ds) (he : AreDigits es) : AreDigits (ds ++ es) :=
  List.forall_mem_append.2 ⟨hd, he⟩

/-- A number is written without zeros in front. -/
theorem head_toDigits_ne_zero {n : ℕ} (hn : 0 < n) {c : Char} {cs : List Char} (h : Nat.toDigits 10 n = c :: cs) :
    c ≠ '0' := by
  induction n using Nat.strong_induction_on generalizing c cs with
  | _ n ih =>
    by_cases hlt : n < 10
    · rw [Nat.toDigits_of_lt_base hlt] at h
      obtain ⟨rfl, -⟩ := List.cons.inj h
      have hall : ∀ m < 10, 0 < m → Nat.digitChar m ≠ '0' := by decide
      exact hall n hlt hn
    · have hsplit := Nat.toDigits_append_toDigits (b := 10) (n := n / 10) (d := n % 10) (by decide) (by omega)
        (by omega)
      rw [Nat.div_add_mod] at hsplit
      cases hfront : Nat.toDigits 10 (n / 10) with
      | nil => exact absurd hfront Nat.toDigits_ne_nil
      | cons d ds =>
        rw [← hsplit, hfront, List.cons_append] at h
        obtain ⟨rfl, -⟩ := List.cons.inj h
        exact ih (n / 10) (by omega) (by omega) hfront

namespace Json

/-- The values of digits. -/
def digitValues (ds : List Char) : List ℕ := ds.map fun d => d.toNat - '0'.toNat

/-- Nothing that goes on with a number comes next. -/
def Ends (cs : List Char) : Prop := ∀ c ∈ cs.head?, c.isDigit = false ∧ c ∉ ['.', 'e', 'E']

namespace NumberText

theorem ofDigits_eq (n : ℕ) (ds : List Char) : ofDigits n (digitValues ds) = Nat.ofDigitChars 10 ds n := by
  rw [Nat.ofDigitChars_eq_foldl, ofDigits, digitValues, List.foldl_map]

theorem digits_append {ds cs : List Char} (hds : AreDigits ds) (hcs : ∀ c ∈ cs.head?, c.isDigit = false) :
    digits (ds ++ cs) = (digitValues ds, cs) := by
  induction ds with
  | nil =>
    cases cs with
    | nil => rfl
    | cons c cs => rw [List.nil_append, digits, if_neg (by simp [hcs c rfl])]; rfl
  | cons d ds ih =>
    rw [List.cons_append, digits, if_pos (hds d List.mem_cons_self), ih fun x hx => hds x (List.mem_cons_of_mem _ hx)]
    rfl

end NumberText

/-! ### Parts of a number -/

/-- The digits of the parts of a number. -/
structure Numeral where
  whole : List Char
  fraction : Option (List Char)
  /-- Whether the power of ten is negative, and its digits. -/
  power : Option (Bool × List Char)

namespace Numeral

/-- A fraction behind its point. -/
def pointed : Option (List Char) → List Char
  | none => []
  | some fs => '.' :: fs

/-- A power of ten with its sign; a plus sign may be left out. -/
def powered (plus : Bool) : Option (Bool × List Char) → List Char
  | none => []
  | some (negative, ps) => 'e' :: ((if negative then ['-'] else if plus then ['+'] else []) ++ ps)

/-- The text of the parts. -/
def write (plus : Bool) (n : Numeral) : List Char := n.whole ++ (pointed n.fraction ++ powered plus n.power)

/-- The parts have digits, and no zero stands in front of the whole part. -/
structure Valid (n : Numeral) : Prop where
  whole : AreDigits n.whole ∧ n.whole ≠ []
  noZero : ∀ cs, n.whole = '0' :: cs → cs = []
  fraction : ∀ fs ∈ n.fraction, AreDigits fs ∧ fs ≠ []
  power : ∀ p ∈ n.power, AreDigits p.2 ∧ p.2 ≠ []

/-- The decimal that the parts say. -/
def decimal (n : Numeral) : Decimal where
  digits := Nat.ofDigitChars 10 (n.whole ++ n.fraction.getD []) 0
  exponent :=
    (match n.power with
      | none => 0
      | some (negative, ps) => if negative then -(Nat.ofDigitChars 10 ps 0 : ℤ) else Nat.ofDigitChars 10 ps 0) -
      (n.fraction.getD []).length

/-- What is read of the parts. -/
def text (negative : Bool) (n : Numeral) : NumberText :=
  ⟨negative, digitValues n.whole, n.fraction.map digitValues, n.power.map fun p => (p.1, digitValues p.2)⟩

end Numeral

namespace NumberText

open Numeral (pointed powered)

variable {t : NumberText} {rest : List Char} {plus : Bool}

private theorem exists_digitValues {ds : List Char} (h : ds ≠ []) : ∃ v vs, digitValues ds = v :: vs := by
  cases ds with
  | nil => exact absurd rfl h
  | cons d ds => exact ⟨_, _, rfl⟩

private theorem scanPower_powered (plus : Bool) (ht : t.power = none) {p : Option (Bool × List Char)}
    (hp : ∀ x ∈ p, AreDigits x.2 ∧ x.2 ≠ []) (hrest : Ends rest) :
    scanPower t (powered plus p ++ rest) =
      (⟨.ok { t with power := p.map fun x => (x.1, digitValues x.2) }, none⟩, rest) := by
  cases p with
  | none =>
    have hsame : { t with power := none } = t := by rw [← ht]
    cases rest with
    | nil => simp [powered, scanPower, hsame]
    | cons c cs =>
      have hc := (hrest c rfl).2
      simp only [List.mem_cons, List.not_mem_nil, or_false, not_or] at hc
      simp [powered, scanPower, hc.2.1, hc.2.2, hsame]
  | some x =>
    obtain ⟨negative, ps⟩ := x
    obtain ⟨hps, hne⟩ := hp _ rfl
    have hdigits := digits_append hps fun c hc => (hrest c hc).1
    obtain ⟨v, vs, hv⟩ := exists_digitValues hne
    have hpair : (negative, digitValues ps) = (negative, v :: vs) := by rw [hv]
    cases negative with
    | true => simp [powered, scanPower, hdigits, hv]
    | false =>
      cases plus with
      | true => simp [powered, scanPower, hdigits, hv]
      | false =>
        -- a digit is no sign
        obtain ⟨d, ds, rfl⟩ := List.exists_cons_of_ne_nil hne
        have hd := hps d List.mem_cons_self
        have hplus : d ≠ '+' := by
          rintro rfl
          cases hd
        have hminus : d ≠ '-' := by
          rintro rfl
          cases hd
        rw [List.cons_append] at hdigits
        simp [powered, scanPower, hdigits, hv, hplus, hminus]

private theorem scanFraction_pointed (plus : Bool) (ht : t.power = none) (hf : t.fraction = none)
    {f : Option (List Char)} (hfs : ∀ fs ∈ f, AreDigits fs ∧ fs ≠ []) {p : Option (Bool × List Char)}
    (hp : ∀ x ∈ p, AreDigits x.2 ∧ x.2 ≠ []) (hrest : Ends rest) :
    scanFraction t (pointed f ++ (powered plus p ++ rest)) =
      (⟨.ok { t with fraction := f.map digitValues, power := p.map fun x => (x.1, digitValues x.2) }, none⟩, rest) := by
  have hends : ∀ c ∈ (powered plus p ++ rest).head?, c.isDigit = false ∧ c ≠ '.' := by
    intro c hc
    cases p with
    | none =>
      have hc := hrest c hc
      exact ⟨hc.1, fun h => hc.2 (by simp [h])⟩
    | some x =>
      obtain rfl : 'e' = c := Option.some.inj hc
      exact ⟨rfl, by decide⟩
  cases f with
  | none =>
    have hsame : { t with fraction := none } = t := by rw [← hf]
    have hscan := scanPower_powered plus ht hp hrest
    rw [pointed, List.nil_append, scanFraction.eq_def]
    split
    · rename_i h
      exact absurd rfl (hends '.' (by rw [h]; rfl)).2
    · rw [hscan, Option.map_none, ← hf]
  | some fs =>
    obtain ⟨hdigits, hne⟩ := hfs fs rfl
    obtain ⟨v, vs, hv⟩ := exists_digitValues hne
    rw [pointed, List.cons_append, scanFraction, digits_append hdigits fun c hc => (hends c hc).1, hv]
    dsimp only
    rw [scanPower_powered plus (by exact ht) hp hrest, Option.map_some, hv]

/-- In front of anything that does not go on with it, a number is read. -/
theorem scanUnsigned_numeral (negative : Bool) {n : Numeral} (hn : n.Valid) (hrest : Ends rest) :
    scanUnsigned negative (n.write plus ++ rest) = (⟨.ok (n.text negative), none⟩, rest) := by
  have hends : ∀ c ∈ (pointed n.fraction ++ (powered plus n.power ++ rest)).head?, c.isDigit = false := by
    intro c hc
    cases hf : n.fraction with
    | some fs =>
      rw [hf] at hc
      obtain rfl : '.' = c := Option.some.inj hc
      rfl
    | none =>
      rw [hf, pointed, List.nil_append] at hc
      cases hp : n.power with
      | some x =>
        rw [hp] at hc
        obtain rfl : 'e' = c := Option.some.inj hc
        rfl
      | none =>
        rw [hp, powered, List.nil_append] at hc
        exact (hrest c hc).1
  have hscan := scanFraction_pointed plus (t := ⟨negative, digitValues n.whole, none, none⟩) rfl rfl hn.fraction
    hn.power hrest
  rw [Numeral.write, List.append_assoc, List.append_assoc, scanUnsigned, digits_append hn.whole.1 hends]
  obtain ⟨d, ds, hw⟩ := List.exists_cons_of_ne_nil hn.whole.2
  have hdigit := hn.whole.1 d (by rw [hw]; exact List.mem_cons_self)
  have hvalues : digitValues n.whole = (d.toNat - '0'.toNat) :: digitValues ds := by rw [hw]; rfl
  split
  · rename_i h
    rw [hvalues] at h
    cases h
  · rename_i h
    -- a digit whose value is zero is a zero in front
    rw [hvalues] at h
    obtain ⟨hd, hds⟩ := List.cons.inj (Prod.mk.inj h).1
    have hle : 48 ≤ d.toNat := by
      rw [Char.isDigit, Bool.and_eq_true, decide_eq_true_iff, decide_eq_true_iff] at hdigit
      exact UInt32.le_iff_toNat_le.1 hdigit.1
    obtain rfl : d = '0' := Char.toNat_inj.1 (Nat.le_antisymm (Nat.sub_eq_zero_iff_le.1 hd) hle)
    obtain rfl := hn.noZero ds hw
    cases hds
  · rename_i h
    obtain ⟨rfl, rfl⟩ := Prod.mk.inj h
    exact hscan

end NumberText

/-! ### Layouts -/

/-- The parts have this text and say this decimal; they are not just a whole number. -/
structure Numeral.Spells (n : Numeral) (plus : Bool) (cs : List Char) (d : Decimal) : Prop where
  valid : n.Valid
  write : n.write plus = cs
  real : n.fraction.isSome = true ∨ n.power.isSome = true
  value : n.decimal.value = d.value

section

variable {d : Decimal} {plus : Bool}

private theorem ofDigitChars_digits (d : Decimal) : Nat.ofDigitChars 10 (Nat.toDigits 10 d.digits) 0 = d.digits :=
  Nat.ofDigitChars_ten_toDigits

private theorem valid_pointed {ws fs : List Char} (hws : AreDigits ws) (hne : ws ≠ [])
    (hzero : ∀ cs, ws = '0' :: cs → cs = []) (hfs : AreDigits fs) (hne' : fs ≠ []) :
    Numeral.Valid ⟨ws, some fs, none⟩ := by
  refine ⟨⟨hws, hne⟩, hzero, ?_, fun _ h => nomatch h⟩
  intro fs' h
  obtain rfl := Option.some.inj h
  exact ⟨hfs, hne'⟩

/-- Zeros up to the point. -/
private theorem spells_whole (hd : 0 < d.digits) (he : 0 ≤ d.exponent) :
    Numeral.Spells ⟨Nat.toDigits 10 d.digits ++ List.replicate d.exponent.toNat '0', some ['0'], none⟩ plus
      (Layout.writePositional d) d := by
  obtain ⟨c, cs, hc⟩ := List.exists_cons_of_ne_nil (Nat.toDigits_ne_nil (b := 10) (n := d.digits))
  refine ⟨valid_pointed ?_ ?_ ?_ (areDigits_zeros 1) (List.cons_ne_nil _ _), ?_, .inl rfl, ?_⟩
  · exact (areDigits_toDigits _).append (areDigits_zeros _)
  · rw [hc]
    exact List.cons_ne_nil _ _
  · intro cs' h
    rw [hc] at h
    exact absurd (List.cons.inj h).1 (head_toDigits_ne_zero hd hc)
  · unfold Layout.writePositional
    rw [if_pos he]
    rfl
  · have hvalue : Nat.ofDigitChars 10 (Nat.toDigits 10 d.digits ++ List.replicate d.exponent.toNat '0' ++ ['0']) 0 =
        10 * (10 ^ d.exponent.toNat * d.digits) := by
      rw [Nat.ofDigitChars_append, Nat.ofDigitChars_append, ofDigitChars_digits, Nat.ofDigitChars_replicate_zero]
      rfl
    simp only [Numeral.decimal, Decimal.value, Option.getD_some, hvalue]
    push_cast
    rw [← zpow_natCast, Int.toNat_of_nonneg he]
    norm_num
    ring

/-- The point between two digits. -/
private theorem spells_inside (hd : 0 < d.digits) {k : ℕ} (hk : 0 < k) (he : d.exponent = -k)
    (hlt : k < (Nat.toDigits 10 d.digits).length) :
    Numeral.Spells ⟨(Nat.toDigits 10 d.digits).take ((Nat.toDigits 10 d.digits).length - k),
      some ((Nat.toDigits 10 d.digits).drop ((Nat.toDigits 10 d.digits).length - k)), none⟩ plus
      (Layout.writePositional d) d := by
  have hdigits := areDigits_toDigits d.digits
  refine ⟨valid_pointed (fun x hx => hdigits x (List.mem_of_mem_take hx)) ?_ ?_
    (fun x hx => hdigits x (List.mem_of_mem_drop hx)) ?_, ?_, .inl rfl, ?_⟩
  · intro h
    have := congrArg List.length h
    simp only [List.length_take, List.length_nil] at this
    omega
  · intro cs' h
    obtain ⟨c, cs, hc⟩ := List.exists_cons_of_ne_nil (Nat.toDigits_ne_nil (b := 10) (n := d.digits))
    have hzero := head_toDigits_ne_zero hd hc
    rw [hc] at h hlt
    obtain ⟨j, hj⟩ : ∃ j, (c :: cs).length - k = j + 1 := ⟨(c :: cs).length - k - 1, by omega⟩
    rw [hj, List.take_succ_cons] at h
    exact absurd (List.cons.inj h).1 hzero
  · intro h
    have := congrArg List.length h
    simp only [List.length_drop, List.length_nil] at this
    omega
  · unfold Layout.writePositional
    rw [if_neg (by omega), he, neg_neg, Int.toNat_natCast, if_pos hlt, Numeral.write]
    simp [Numeral.pointed, Numeral.powered]
  · simp only [Numeral.decimal, Decimal.value, Option.getD_some, List.take_append_drop, ofDigitChars_digits,
      List.length_drop, he]
    congr 2
    omega

/-- Zeros between the point and the digits. -/
private theorem spells_below {k : ℕ} (hk : 0 < k) (he : d.exponent = -k)
    (hle : (Nat.toDigits 10 d.digits).length ≤ k) :
    Numeral.Spells ⟨['0'], some (List.replicate (k - (Nat.toDigits 10 d.digits).length) '0' ++ Nat.toDigits 10 d.digits),
      none⟩ plus (Layout.writePositional d) d := by
  refine ⟨valid_pointed (areDigits_zeros 1) (List.cons_ne_nil _ _) (fun cs h => (List.cons.inj h).2.symm)
    ((areDigits_zeros _).append (areDigits_toDigits _)) ?_, ?_, .inl rfl, ?_⟩
  · simp [Nat.toDigits_ne_nil]
  · unfold Layout.writePositional
    rw [if_neg (by omega), he, neg_neg, Int.toNat_natCast, if_neg (by omega), Numeral.write]
    simp [Numeral.pointed, Numeral.powered]
    rfl
  · have hvalue : Nat.ofDigitChars 10 (['0'] ++
        (List.replicate (k - (Nat.toDigits 10 d.digits).length) '0' ++ Nat.toDigits 10 d.digits)) 0 = d.digits := by
      rw [Nat.ofDigitChars_append, Nat.ofDigitChars_append]
      have hzeros : Nat.ofDigitChars 10 (List.replicate (k - (Nat.toDigits 10 d.digits).length) '0')
          (Nat.ofDigitChars 10 ['0'] 0) = 0 := by
        rw [Nat.ofDigitChars_replicate_zero]
        exact Nat.mul_zero _
      rw [hzeros, ofDigitChars_digits]
    simp only [Numeral.decimal, Decimal.value, Option.getD_some, hvalue, List.length_append, List.length_replicate, he]
    congr 2
    omega

private theorem exists_spells_positional (hd : 0 < d.digits) (plus : Bool) :
    ∃ n : Numeral, n.Spells plus (Layout.writePositional d) d := by
  by_cases he : 0 ≤ d.exponent
  · exact ⟨_, spells_whole hd he⟩
  · obtain ⟨k, hk⟩ : ∃ k : ℕ, d.exponent = -k := ⟨(-d.exponent).toNat, by omega⟩
    by_cases hlt : k < (Nat.toDigits 10 d.digits).length
    · exact ⟨_, spells_inside hd (by omega) hk hlt⟩
    · exact ⟨_, spells_below (by omega) hk (not_lt.1 hlt)⟩

/-- One digit in front of the point, and a power of ten. -/
private theorem spells_scientific {c : Char} {cs : List Char}
    (hc : Nat.toDigits 10 d.digits = c :: cs) {p : ℤ} (hp : p = d.exponent + Magnitude.digitCount d.digits - 1) :
    Numeral.Spells ⟨[c], if cs = [] then none else some cs, some (p < 0, Nat.toDigits 10 p.natAbs)⟩ plus
      (Layout.writeScientific plus d p) d := by
  have hdigits := areDigits_toDigits d.digits
  rw [hc] at hdigits
  have hlength : Magnitude.digitCount d.digits = cs.length + 1 := congrArg List.length hc
  refine ⟨⟨⟨?_, List.cons_ne_nil _ _⟩, ?_, ?_, ?_⟩, ?_, .inr rfl, ?_⟩
  · exact List.forall_mem_singleton.2 (hdigits c List.mem_cons_self)
  · exact fun _ h => (List.cons.inj h).2.symm
  · intro fs h
    dsimp only at h
    split at h
    · cases h
    · rename_i hne
      obtain rfl := Option.some.inj h
      exact ⟨fun x hx => hdigits x (List.mem_cons_of_mem _ hx), hne⟩
  · intro x h
    obtain rfl := Option.some.inj h
    exact ⟨areDigits_toDigits _, Nat.toDigits_ne_nil⟩
  · unfold Layout.writeScientific
    rw [hc]
    cases cs <;> simp [Numeral.write, Numeral.pointed, Numeral.powered]
  · have hfraction : (if cs = [] then none else some cs).getD [] = cs := by
      split
      · rename_i h
        exact h.symm
      · rfl
    have hpower : (if (decide (p < 0)) = true then -(Nat.ofDigitChars 10 (Nat.toDigits 10 p.natAbs) 0 : ℤ)
        else Nat.ofDigitChars 10 (Nat.toDigits 10 p.natAbs) 0) = p := by
      simp only [Nat.ofDigitChars_ten_toDigits, decide_eq_true_eq]
      split <;> omega
    simp only [Numeral.decimal, Decimal.value, hfraction, List.singleton_append, ← hc, ofDigitChars_digits, hpower]
    congr 2
    omega

/-- Every layout writes parts that say the shortest decimal of a magnitude other than zero. -/
private theorem exists_spells (l : Layout) {x : Magnitude} (hx : x.mantissa ≠ 0) :
    ∃ n : Numeral, n.Spells l.plus (l.magnitude x) (x.shortest l.tie) := by
  have hd := Magnitude.digits_shortest_pos hx l.tie
  unfold Layout.magnitude
  dsimp only
  rw [if_neg hx]
  split
  · exact exists_spells_positional hd l.plus
  · obtain ⟨c, cs, hc⟩ := List.exists_cons_of_ne_nil (Nat.toDigits_ne_nil (b := 10) (n := (x.shortest l.tie).digits))
    exact ⟨_, spells_scientific hc rfl⟩

private theorem valid_zero : Numeral.Valid ⟨['0'], some ['0'], none⟩ :=
  valid_pointed (areDigits_zeros 1) (List.cons_ne_nil _ _) (fun _ h => (List.cons.inj h).2.symm) (areDigits_zeros 1)
    (List.cons_ne_nil _ _)

end

/-- What a layout writes of a magnitude has the parts of a number. -/
theorem Numeral.exists_of_magnitude (l : Layout) (x : Magnitude) :
    ∃ n : Numeral, n.Valid ∧ n.write l.plus = l.magnitude x := by
  by_cases hx : x.mantissa = 0
  · exact ⟨_, valid_zero, (if_pos hx).symm⟩
  · obtain ⟨n, hn⟩ := exists_spells l hx
    exact ⟨n, hn.valid, hn.write⟩

/-- The digits of a whole number are parts of a number. -/
theorem Numeral.valid_toDigits (n : ℕ) : Numeral.Valid ⟨Nat.toDigits 10 n, none, none⟩ := by
  refine ⟨⟨areDigits_toDigits _, Nat.toDigits_ne_nil⟩, ?_, (fun _ h => nomatch h), fun _ h => nomatch h⟩
  intro cs h
  have hzero : n = 0 := by
    by_contra hne
    exact head_toDigits_ne_zero (Nat.pos_of_ne_zero hne) h rfl
  rw [hzero] at h
  exact (List.cons.inj h).2.symm

/-- A number without a fraction and a power of ten is its digits. -/
theorem Numeral.write_whole (plus : Bool) (ds : List Char) : Numeral.write plus ⟨ds, none, none⟩ = ds := by
  simp [Numeral.write, Numeral.pointed, Numeral.powered]

/-! ### Reading back -/

/-- Correct rounding takes the parts for the decimal that they say. -/
private theorem nearest_text {negative sign : Bool} {n : Numeral} {x : Magnitude}
    (h : Binary64.ofDecimal false n.decimal.digits n.decimal.exponent = .finite sign x) :
    RealRule.nearest (n.text negative) = some x := by
  obtain ⟨ws, f, p⟩ := n
  have hdigits : NumberText.ofDigits (NumberText.ofDigits 0 (digitValues ws)) ((f.map digitValues).getD []) =
      Nat.ofDigitChars 10 (ws ++ f.getD []) 0 := by
    rw [Nat.ofDigitChars_append, ← NumberText.ofDigits_eq, ← NumberText.ofDigits_eq]
    cases f <;> rfl
  have hlength : ((f.map digitValues).getD []).length = (f.getD []).length := by
    cases f with
    | none => rfl
    | some fs => exact List.length_map _
  unfold RealRule.nearest
  simp only [Numeral.text, hdigits, hlength]
  cases p with
  | none =>
    change Binary64.ofDecimal false (Nat.ofDigitChars 10 (ws ++ f.getD []) 0) (0 - (f.getD []).length) = _ at h
    rw [Option.map_none, h]
  | some x =>
    obtain ⟨negative', ps⟩ := x
    have hpower : NumberText.ofDigits 0 (digitValues ps) = Nat.ofDigitChars 10 ps 0 := NumberText.ofDigits_eq 0 ps
    change Binary64.ofDecimal false (Nat.ofDigitChars 10 (ws ++ f.getD []) 0)
      ((if negative' then -(Nat.ofDigitChars 10 ps 0 : ℤ) else Nat.ofDigitChars 10 ps 0) - (f.getD []).length) = _ at h
    rw [Option.map_some]
    dsimp only
    rw [hpower, h]

private theorem nearest_eq_some (negative : Bool) {n : Numeral} {x : Magnitude} (hx : x.mantissa ≠ 0)
    (h : x.Near n.decimal.value) : RealRule.nearest (n.text negative) = some x := by
  have hpos : 0 < n.decimal.digits := by
    have hpos := h.pos hx
    by_contra hzero
    rw [Decimal.value, Nat.eq_zero_of_not_pos hzero, Nat.cast_zero, zero_mul] at hpos
    exact lt_irrefl _ hpos
  exact nearest_text (Binary64.ofDecimal_eq_finite hx hpos h false)

/-- A number is read with its sign. -/
private theorem scan_numeral (negative : Bool) {plus : Bool} {n : Numeral} (hn : n.Valid) {rest : List Char}
    (hrest : Ends rest) : NumberText.scan ((if negative then ['-'] else []) ++ (n.write plus ++ rest)) =
      (⟨.ok (n.text negative), none⟩, rest) := by
  cases negative with
  | true => exact NumberText.scanUnsigned_numeral true hn hrest
  | false =>
    obtain ⟨d, ds, hw⟩ := List.exists_cons_of_ne_nil hn.whole.2
    have hd : d ≠ '-' := by
      rintro rfl
      cases hn.whole.1 '-' (by rw [hw]; exact List.mem_cons_self)
    rw [if_neg (by decide), List.nil_append, NumberText.scan.eq_def]
    split
    · rename_i h
      rw [Numeral.write, hw] at h
      exact absurd (List.cons.inj h).1 hd
    · exact NumberText.scanUnsigned_numeral false hn hrest

/-- A magnitude is read back from what a layout writes of it. -/
private theorem scan_magnitude (l : Layout) (negative : Bool) (x : Magnitude) {rest : List Char} (hrest : Ends rest) :
    ∃ t : NumberText, NumberText.scan ((if negative then ['-'] else []) ++ (l.magnitude x ++ rest)) =
      (⟨.ok t, none⟩, rest) ∧ t.negative = negative ∧ (t.fraction.isSome = true ∨ t.power.isSome = true) ∧
        RealRule.nearest t = some x := by
  by_cases hx : x.mantissa = 0
  · have hzero : x = .zero := by
      obtain ⟨m, e, hc⟩ := x
      obtain rfl : m = 0 := hx
      obtain rfl : e = -1074 := hc.2.2.2.resolve_left (by decide)
      rfl
    have htext : l.magnitude x = Numeral.write false ⟨['0'], some ['0'], none⟩ := if_pos hx
    rw [htext]
    refine ⟨_, scan_numeral negative valid_zero hrest, rfl, .inl rfl, ?_⟩
    have hread : Binary64.ofDecimal false 0 (0 - 1) = .finite false .zero := rfl
    rw [hzero]
    exact nearest_text hread
  · obtain ⟨n, hn⟩ := exists_spells l hx
    rw [← hn.write]
    refine ⟨_, scan_numeral negative hn.valid hrest, rfl, ?_, nearest_eq_some negative hx ?_⟩
    · simpa [Numeral.text] using hn.real
    · rw [hn.value]
      exact Magnitude.near_shortest hx l.tie

/-- With correct rounding every number is read back from what a layout writes of it. -/
theorem Number.scan_write (l : Layout) (negative : Bool) (x : Magnitude) {rest : List Char} (hrest : Ends rest) :
    Number.scan .nearest ((l.write (.finite negative x)).toList ++ rest) =
      (⟨.ok (.real (.finite negative x)), none⟩, rest) := by
  obtain ⟨t, hscan, hneg, hreal, hvalue⟩ := scan_magnitude l negative x hrest
  have htext : Number.ofText .nearest t = .ok (.real (.finite negative x)) := by
    unfold Number.ofText
    dsimp only
    rw [if_neg, hvalue, hneg]
    rintro ⟨hf, hp, -⟩
    rcases hreal with h | h
    · rw [Option.isNone_iff_eq_none.1 hf] at h
      cases h
    · rw [Option.isNone_iff_eq_none.1 hp] at h
      cases h
  rw [Layout.write, String.toList_ofList, List.append_assoc, Number.scan, hscan]
  show ((⟨Number.ofText .nearest t, none⟩ : Scanned Number), rest) = _
  rw [htext]

/-- The text of a whole number: a sign, or none, and digits. -/
theorem toList_toString_int (n : ℤ) :
    (toString n).toList = (if decide (n < 0) then ['-'] else []) ++ Nat.toDigits 10 n.natAbs := by
  rw [Int.toString_eq_repr, Int.repr_eq_if]
  by_cases h : 0 ≤ n
  · have habs : n.toNat = n.natAbs := by omega
    have hneg : decide (n < 0) = false := decide_eq_false (by omega)
    simp [h, hneg, Nat.toList_repr, habs]
  · have habs : (-n).toNat = n.natAbs := by omega
    have hneg : decide (n < 0) = true := decide_eq_true (by omega)
    simp [h, hneg, Nat.toList_repr, habs]

/-- Whole numbers that fit are read back. -/
theorem Number.scan_toString (rule : RealRule) {n : ℤ} (hn : -0x8000000000000000 ≤ n ∧ n < 0x10000000000000000)
    {rest : List Char} (hrest : Ends rest) :
    Number.scan rule ((toString n).toList ++ rest) = (⟨.ok (.int n), none⟩, rest) := by
  have hvalid := Numeral.valid_toDigits n.natAbs
  have hwrite := (Numeral.write_whole false (Nat.toDigits 10 n.natAbs)).symm
  have htext : Number.ofText rule (Numeral.text (decide (n < 0)) ⟨Nat.toDigits 10 n.natAbs, none, none⟩) =
      .ok (.int n) := by
    unfold Number.ofText
    simp only [Numeral.text, NumberText.ofDigits_eq, Nat.ofDigitChars_ten_toDigits, decide_eq_true_eq]
    by_cases hneg : n < 0
    · simp only [hneg, if_true]
      rw [if_pos]
      · congr 2
        omega
      · exact ⟨rfl, rfl, by omega, by omega⟩
    · simp only [hneg, if_false]
      rw [if_pos]
      · congr 2
        omega
      · exact ⟨rfl, rfl, by omega⟩
  rw [toList_toString_int, List.append_assoc, hwrite, Number.scan, scan_numeral _ hvalid hrest]
  show ((⟨Number.ofText rule _, none⟩ : Scanned Number), rest) = _
  rw [htext]

/-- A number starts with a minus sign or a digit. -/
theorem Number.exists_cons_of_scan {rule : RealRule} {cs : List Char} {n : Number}
    (h : (Number.scan rule cs).1.read = .ok n) : ∃ c cs', cs = c :: cs' ∧ (c = '-' ∨ c.isDigit = true) := by
  obtain ⟨t, ht, -⟩ := exists_of_bind_ok h
  cases cs with
  | nil => cases ht
  | cons c cs =>
    refine ⟨c, cs, rfl, ?_⟩
    by_contra hc
    rw [not_or] at hc
    have hscan : NumberText.scan (c :: cs) = NumberText.scanUnsigned false (c :: cs) := by
      unfold NumberText.scan
      split
      · rename_i h
        exact absurd (List.cons.inj h).1 hc.1
      · rfl
    change (NumberText.scan (c :: cs)).1.read = .ok t at ht
    rw [hscan, NumberText.scanUnsigned, NumberText.digits, if_neg hc.2] at ht
    cases ht

end Json

end Signpost
