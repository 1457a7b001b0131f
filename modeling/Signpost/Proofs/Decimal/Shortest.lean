import Signpost.Proofs.Decimal.Rounding

/-!
# Shortest decimals round back

The search for the shortest decimal of a magnitude compares whole numbers over one denominator; what it accepts are the
numbers that round to the magnitude (`contains_iff`).  With seventeen digits the step of the grid is below the width of
this interval, so that the search ends, and its result rounds to the magnitude (`near_shortest`).
-/

namespace Signpost

/-- The exact value. -/
def Decimal.value (d : Decimal) : ℚ := d.digits * 10 ^ d.exponent

/-- Zeros at the end of the digits do not count. -/
theorem Decimal.value_trimZeros (fuel : ℕ) (d : Decimal) : (d.trimZeros fuel).value = d.value := by
  induction fuel generalizing d with
  | zero => rfl
  | succ fuel ih =>
    rw [trimZeros]
    split
    · rename_i h
      rw [ih]
      have hdigits : (d.digits : ℚ) = 10 * (d.digits / 10 : ℕ) := by
        have : d.digits = 10 * (d.digits / 10) := by omega
        exact_mod_cast this
      unfold value
      dsimp only
      rw [hdigits, zpow_add_one₀ (by norm_num)]
      ring
    · rfl

namespace Magnitude

variable {x : Magnitude} {w : Neighbourhood}

/-! ### The interval around a magnitude -/

/-- The whole numbers of the interval, over their denominator. -/
private structure Neighbourhood.Of (w : Neighbourhood) (x : Magnitude) : Prop where
  den : 0 < w.den
  low : (w.low : ℚ) = (x.mantissa - x.slack) * 2 ^ x.exponent * w.den
  value : (w.value : ℚ) = x.value * w.den
  high : (w.high : ℚ) = (x.mantissa + 1 / 2) * 2 ^ x.exponent * w.den
  closed : w.closed = true ↔ x.mantissa % 2 = 0

private theorem neighbourhood_of (hx : x.mantissa ≠ 0) : x.neighbourhood.Of x := by
  have hunit : ((Nat.pow 2 (x.exponent - 2).toNat : ℕ) : ℚ) = 2 ^ x.exponent / 4 *
      (Nat.pow 2 (-(x.exponent - 2)).toNat : ℕ) := by
    have h : ((Nat.pow 2 (x.exponent - 2).toNat : ℕ) : ℚ) =
        2 ^ (x.exponent - 2) * (Nat.pow 2 (-(x.exponent - 2)).toNat : ℕ) := by
      rw [Nat.pow_eq, Nat.pow_eq, Nat.cast_pow, Nat.cast_pow, Nat.cast_ofNat, ← zpow_natCast, ← zpow_natCast,
        ← zpow_add₀ two_ne_zero]
      congr 1
      omega
    rw [h, zpow_sub₀ two_ne_zero]
    norm_num
  have hone : 1 ≤ x.mantissa := Nat.one_le_iff_ne_zero.2 hx
  unfold neighbourhood
  dsimp only
  refine ⟨Nat.pow_pos two_pos, ?_, ?_, ?_, by simp⟩
  · dsimp only
    rw [Nat.cast_mul, hunit, slack]
    split
    · rw [Nat.cast_sub (by omega)]
      push_cast
      ring
    · rw [Nat.cast_sub (by omega)]
      push_cast
      ring
  · dsimp only
    rw [Nat.cast_mul, hunit, value]
    push_cast
    ring
  · dsimp only
    rw [Nat.cast_mul, hunit]
    push_cast
    ring

/-- A power of ten as a quotient of whole numbers. -/
private theorem cast_pow_ten (e : ℤ) :
    ((Nat.pow 10 e.toNat : ℕ) : ℚ) = 10 ^ e * (Nat.pow 10 (-e).toNat : ℕ) := by
  rw [Nat.pow_eq, Nat.pow_eq, Nat.cast_pow, Nat.cast_pow, Nat.cast_ofNat, ← zpow_natCast, ← zpow_natCast,
    ← zpow_add₀ (by norm_num)]
  congr 1
  omega

/-- What is in the interval is what rounds to the magnitude. -/
private theorem contains_iff (hw : w.Of x) (n : ℕ) (e : ℤ) : w.contains n e = true ↔ x.Near (n * 10 ^ e) := by
  have hden : (0 : ℚ) < w.den := Nat.cast_pos.2 hw.den
  have hscale : (0 : ℚ) < (Nat.pow 10 (-e).toNat : ℕ) := Nat.cast_pos.2 (Nat.pow_pos (by decide))
  have hp : ((n * Nat.pow 10 e.toNat * w.den : ℕ) : ℚ) = n * 10 ^ e * (w.den * (Nat.pow 10 (-e).toNat : ℕ)) := by
    rw [Nat.cast_mul, Nat.cast_mul, cast_pow_ten]
    ring
  have hlow : ((w.low * Nat.pow 10 (-e).toNat : ℕ) : ℚ) =
      (x.mantissa - x.slack) * 2 ^ x.exponent * (w.den * (Nat.pow 10 (-e).toNat : ℕ)) := by
    rw [Nat.cast_mul, hw.low]
    ring
  have hhigh : ((w.high * Nat.pow 10 (-e).toNat : ℕ) : ℚ) =
      (x.mantissa + 1 / 2) * 2 ^ x.exponent * (w.den * (Nat.pow 10 (-e).toNat : ℕ)) := by
    rw [Nat.cast_mul, hw.high]
    ring
  have hpos : (0 : ℚ) < w.den * (Nat.pow 10 (-e).toNat : ℕ) := mul_pos hden hscale
  unfold Neighbourhood.contains
  dsimp only
  split
  · rename_i hclosed
    have heven := hw.closed.1 hclosed
    rw [Bool.and_eq_true, decide_eq_true_iff, decide_eq_true_iff, ← Nat.cast_le (α := ℚ), ← Nat.cast_le (α := ℚ), hp,
      hlow, hhigh, mul_le_mul_iff_left₀ hpos, mul_le_mul_iff_left₀ hpos]
    exact ⟨fun h => ⟨h.1, h.2, fun hodd => by omega⟩, fun h => ⟨h.low, h.high⟩⟩
  · rename_i hopen
    have hodd : x.mantissa % 2 = 1 := by
      have : x.mantissa % 2 ≠ 0 := fun heven => hopen (hw.closed.2 heven)
      omega
    rw [Bool.and_eq_true, decide_eq_true_iff, decide_eq_true_iff, ← Nat.cast_lt (α := ℚ), ← Nat.cast_lt (α := ℚ), hp,
      hlow, hhigh, mul_lt_mul_iff_left₀ hpos, mul_lt_mul_iff_left₀ hpos]
    exact ⟨fun h => ⟨h.1.le, h.2.le, fun _ => h⟩, fun h => h.strict hodd⟩

/-! ### The search -/

/-- The power of ten of the first digit. -/
private theorem leadingPlace_spec {num den : ℕ} (hnum : 0 < num) (hden : 0 < den) :
    (10 : ℚ) ^ leadingPlace num den ≤ num / den := by
  obtain ⟨guess, hguess⟩ : ∃ g : ℤ, (digitCount num : ℤ) - digitCount den = g := ⟨_, rfl⟩
  have hplace : leadingPlace num den =
      if num * Nat.pow 10 (-guess).toNat < den * Nat.pow 10 guess.toNat then guess - 1 else guess := by
    rw [← hguess]
    rfl
  have hden' : (0 : ℚ) < den := Nat.cast_pos.2 hden
  rw [hplace, le_div_iff₀ hden']
  split
  · have hcount : 0 < digitCount num := Nat.length_toDigits_pos
    have hlow : ((10 : ℚ) ^ (digitCount num - 1)) ≤ num := by exact_mod_cast pow_digitCount_le hnum
    have hhigh : (den : ℚ) < 10 ^ digitCount den := by exact_mod_cast lt_pow_digitCount den
    calc (10 : ℚ) ^ (guess - 1) * den ≤ 10 ^ (guess - 1) * 10 ^ digitCount den := by gcongr
      _ = 10 ^ (digitCount num - 1) := by
        rw [← zpow_natCast, ← zpow_natCast, ← zpow_add₀ (by norm_num)]
        congr 1
        omega
      _ ≤ num := hlow
  · rename_i hle
    have hscale : (0 : ℚ) < (Nat.pow 10 (-guess).toNat : ℕ) := Nat.cast_pos.2 (Nat.pow_pos (by decide))
    have hle : ((den * Nat.pow 10 guess.toNat : ℕ) : ℚ) ≤ (num * Nat.pow 10 (-guess).toNat : ℕ) :=
      Nat.cast_le.2 (not_lt.1 hle)
    rw [Nat.cast_mul, Nat.cast_mul, cast_pow_ten, ← mul_assoc, mul_le_mul_iff_left₀ hscale] at hle
    linarith

/-- The grid point at or below the value. -/
private theorem floorAt_spec (hw : w.Of x) (e : ℤ) :
    w.floorAt e * 10 ^ e ≤ x.value ∧ x.value < (w.floorAt e + 1) * 10 ^ e := by
  have hden : (0 : ℚ) < w.den := Nat.cast_pos.2 hw.den
  have hscale : (0 : ℚ) < (Nat.pow 10 (-e).toNat : ℕ) := Nat.cast_pos.2 (Nat.pow_pos (by decide))
  have hstep : 0 < w.den * Nat.pow 10 e.toNat := Nat.mul_pos hw.den (Nat.pow_pos (by decide))
  have hpos : (0 : ℚ) < w.den * (Nat.pow 10 (-e).toNat : ℕ) := mul_pos hden hscale
  have hlow := Nat.div_mul_le_self (w.value * Nat.pow 10 (-e).toNat) (w.den * Nat.pow 10 e.toNat)
  have hhigh := Nat.lt_div_mul_add hstep (a := w.value * Nat.pow 10 (-e).toNat)
  unfold Neighbourhood.floorAt
  generalize w.value * Nat.pow 10 (-e).toNat / (w.den * Nat.pow 10 e.toNat) = n at *
  have hvalue : ((w.value * Nat.pow 10 (-e).toNat : ℕ) : ℚ) = x.value * (w.den * (Nat.pow 10 (-e).toNat : ℕ)) := by
    rw [Nat.cast_mul, hw.value]
    ring
  have hunit : ((w.den * Nat.pow 10 e.toNat : ℕ) : ℚ) = 10 ^ e * (w.den * (Nat.pow 10 (-e).toNat : ℕ)) := by
    rw [Nat.cast_mul, cast_pow_ten]
    ring
  rw [← Nat.cast_le (α := ℚ), Nat.cast_mul n, hvalue, hunit] at hlow
  rw [← Nat.cast_lt (α := ℚ), Nat.cast_add, Nat.cast_mul n, hvalue, hunit] at hhigh
  refine ⟨le_of_mul_le_mul_right ?_ hpos, lt_of_mul_lt_mul_right ?_ hpos.le⟩
  · linarith
  · linarith

/-- Where the step of the grid is a small part of the value, a neighbour on the grid rounds to it. -/
private theorem onGrid?_isSome (hw : w.Of x) (tie : Tie) {e : ℤ} (hstep : 10 ^ e * 10 ^ 16 ≤ x.value) :
    (w.onGrid? tie e).isSome = true := by
  obtain ⟨hlow, hhigh⟩ := floorAt_spec hw e
  have he : (0 : ℚ) < 2 ^ x.exponent := by positivity
  have hm : (x.mantissa : ℚ) + 1 ≤ 0x20000000000000 := by exact_mod_cast x.canonical.1
  -- the interval is wider than the step
  have hwidth : (10 : ℚ) ^ e < (x.slack + 1 / 2) * 2 ^ x.exponent := by
    unfold slack
    unfold value at hstep
    split
    · rename_i hfirst
      rw [hfirst.1] at hstep
      push_cast at hstep
      nlinarith
    · nlinarith
  have hnear : x.Near (w.floorAt e * 10 ^ e) ∨ x.Near ((w.floorAt e + 1 : ℕ) * 10 ^ e) := by
    by_cases h : (x.mantissa - x.slack) * 2 ^ x.exponent < w.floorAt e * 10 ^ e
    · have hbelow : (w.floorAt e * 10 ^ e : ℚ) < (x.mantissa + 1 / 2) * 2 ^ x.exponent := by
        unfold value at hlow
        nlinarith
      exact .inl ⟨h.le, hbelow.le, fun _ => ⟨h, hbelow⟩⟩
    · have habove : ((w.floorAt e + 1 : ℕ) * 10 ^ e : ℚ) < (x.mantissa + 1 / 2) * 2 ^ x.exponent := by
        push_cast
        linarith
      have hgt : (x.mantissa - x.slack) * 2 ^ x.exponent < ((w.floorAt e + 1 : ℕ) * 10 ^ e : ℚ) := by
        have hslack : 0 < x.slack * 2 ^ x.exponent := mul_pos x.slack_pos he
        unfold value at hhigh
        push_cast
        linarith
      exact .inr ⟨hgt.le, habove.le, fun _ => ⟨hgt, habove⟩⟩
  rw [← contains_iff hw, ← contains_iff hw] at hnear
  unfold Neighbourhood.onGrid?
  dsimp only
  split <;> simp_all

private theorem contains_of_onGrid? {tie : Tie} {n : ℕ} {e : ℤ} (h : w.onGrid? tie e = some n) :
    w.contains n e = true := by
  unfold Neighbourhood.onGrid? at h
  dsimp only at h
  split at h
  · rename_i hn hn'
    unfold Neighbourhood.nearer at h
    grind
  · rename_i hn _
    exact Option.some.inj h ▸ hn
  · rename_i _ hn
    exact Option.some.inj h ▸ hn
  · cases h

/-- The search ends on the first grid with a neighbour that rounds to the value. -/
private theorem search_spec {tie : Tie} {fuel : ℕ} {e : ℤ}
    (h : ∃ k < fuel, (w.onGrid? tie (e - k)).isSome = true) :
    ∃ d, w.search tie fuel e = some d ∧ w.contains d.digits d.exponent = true := by
  induction fuel generalizing e with
  | zero =>
    obtain ⟨k, hk, -⟩ := h
    omega
  | succ fuel ih =>
    rw [Neighbourhood.search]
    cases hgrid : w.onGrid? tie e with
    | some n => exact ⟨⟨n, e⟩, rfl, contains_of_onGrid? hgrid⟩
    | none =>
      obtain ⟨k, hk, hsome⟩ := h
      cases k with
      | zero =>
        rw [Nat.cast_zero, sub_zero, hgrid] at hsome
        cases hsome
      | succ k =>
        refine ih ⟨k, Nat.lt_of_succ_lt_succ hk, ?_⟩
        have hexp : e - 1 - k = e - (k + 1 : ℕ) := by
          push_cast
          ring
        rwa [hexp]

/-- The shortest decimal of a magnitude other than zero rounds to it. -/
theorem near_shortest (hx : x.mantissa ≠ 0) (tie : Tie) : x.Near (x.shortest tie).value := by
  have hw := neighbourhood_of hx
  have hden : (0 : ℚ) < x.neighbourhood.den := Nat.cast_pos.2 hw.den
  have hpos : 0 < x.value := mul_pos (Nat.cast_pos.2 (Nat.pos_of_ne_zero hx)) (by positivity)
  have hvalue : 0 < x.neighbourhood.value := by
    rw [← Nat.cast_pos (α := ℚ), hw.value]
    exact mul_pos hpos hden
  have hplace := leadingPlace_spec hvalue hw.den
  rw [hw.value, mul_div_assoc, div_self hden.ne', mul_one] at hplace
  have hfound : ∃ k < 17, (x.neighbourhood.onGrid? tie
      (leadingPlace x.neighbourhood.value x.neighbourhood.den - (k : ℕ))).isSome = true := by
    refine ⟨16, by decide, onGrid?_isSome hw tie ?_⟩
    rw [← zpow_natCast, ← zpow_add₀ (by norm_num), Nat.cast_ofNat, sub_add_cancel]
    exact hplace
  obtain ⟨d, hd, hcontains⟩ := search_spec hfound
  unfold shortest
  dsimp only
  rw [hd]
  dsimp only
  rw [Decimal.value_trimZeros]
  exact (contains_iff hw _ _).1 hcontains

/-- What rounds to a magnitude other than zero is not zero. -/
theorem Near.pos (hx : x.mantissa ≠ 0) {r : ℚ} (h : x.Near r) : 0 < r := by
  refine lt_of_lt_of_le (mul_pos ?_ (by positivity)) h.low
  have : (1 : ℚ) ≤ x.mantissa := by exact_mod_cast Nat.one_le_iff_ne_zero.2 hx
  linarith [x.slack_le]

theorem digits_shortest_pos (hx : x.mantissa ≠ 0) (tie : Tie) : 0 < (x.shortest tie).digits := by
  have hpos := (near_shortest hx tie).pos hx
  by_contra h
  have hzero : (x.shortest tie).digits = 0 := by omega
  rw [Decimal.value, hzero, Nat.cast_zero, zero_mul] at hpos
  exact lt_irrefl _ hpos

end Magnitude

end Signpost
