import Mathlib.Algebra.Order.Field.Power
import Mathlib.Algebra.Order.Ring.Rat
import Mathlib.Data.Nat.Log
import Mathlib.Tactic.FieldSimp
import Mathlib.Tactic.Linarith
import Mathlib.Tactic.NormNum
import Mathlib.Tactic.Ring
import Signpost.Decimal.Layout

/-!
# Rounding to the nearest magnitude

The exact value of a magnitude is a rational number (`Magnitude.value`), and around it lies the interval of numbers
that round to it (`Magnitude.Near`).  Rounding a quotient gives every magnitude whose interval the quotient is in
(`ofRatio?_eq_some`), so that a decimal in the interval reads back as the magnitude (`ofDecimal_eq_finite`).
-/

namespace Signpost.Magnitude

/-- The exact value. -/
def value (x : Magnitude) : ℚ := x.mantissa * 2 ^ x.exponent

/-- The part of a unit below the value in which numbers round to it. -/
def slack (x : Magnitude) : ℚ := if x.mantissa = 0x10000000000000 ∧ x.exponent ≠ -1074 then 1 / 4 else 1 / 2

/-- A number that rounds to the magnitude: at most half a unit above it and at most the slack below; the ends of the
interval belong to it if the mantissa is even. -/
structure Near (x : Magnitude) (r : ℚ) : Prop where
  low : (x.mantissa - x.slack) * 2 ^ x.exponent ≤ r
  high : r ≤ (x.mantissa + 1 / 2) * 2 ^ x.exponent
  strict : x.mantissa % 2 = 1 →
    (x.mantissa - x.slack) * 2 ^ x.exponent < r ∧ r < (x.mantissa + 1 / 2) * 2 ^ x.exponent

/-! ### Quotients -/

theorem le_roundQuotient_le (n d : ℕ) : n / d ≤ roundQuotient n d ∧ roundQuotient n d ≤ n / d + 1 := by
  unfold roundQuotient
  dsimp only
  split_ifs <;> omega

/-- A quotient that is at most one half away from a number rounds to it; exactly one half away only if it is even. -/
theorem roundQuotient_eq {n d m : ℕ} (hlow : 2 * (m * d) ≤ 2 * n + d) (hhigh : 2 * n ≤ 2 * (m * d) + d)
    (hstrict : m % 2 = 1 → 2 * (m * d) < 2 * n + d ∧ 2 * n < 2 * (m * d) + d) (hd : 0 < d) :
    roundQuotient n d = m := by
  have hn : d * (n / d) + n % d = n := Nat.div_add_mod n d
  have hs : n % d < d := Nat.mod_lt n hd
  unfold roundQuotient
  dsimp only
  generalize n / d = q at *
  generalize n % d = s at *
  subst hn
  have hq : q ≤ m := by
    by_contra! h
    have : (m + 1) * d ≤ q * d := Nat.mul_le_mul_right d h
    nlinarith
  have hm : m ≤ q + 1 := by
    by_contra! h
    have : (q + 2) * d ≤ m * d := Nat.mul_le_mul_right d h
    nlinarith
  obtain rfl | rfl : m = q ∨ m = q + 1 := by omega
  · have hcomm : d * m = m * d := Nat.mul_comm d m
    split
    · rfl
    · split
      · omega
      · rw [if_pos]
        by_contra hodd
        have := hstrict (by omega)
        omega
  · have hcomm : (q + 1) * d = d * q + d := by ring
    split
    · omega
    · split
      · rfl
      · rw [if_neg]
        intro heven
        have := hstrict (by omega)
        omega

private theorem zpow_toNat {b : ℚ} {e : ℤ} (h : 0 ≤ e) : b ^ e.toNat = b ^ e := by
  rw [← zpow_natCast, Int.toNat_of_nonneg h]

/-- A quotient in units of a power of two. -/
private theorem inUnits_spec (num : ℕ) {den : ℕ} (hden : 0 < den) (e : ℤ) : 0 < (inUnits num den e).2 ∧
    ((inUnits num den e).1 : ℚ) = (num / den / 2 ^ e) * (inUnits num den e).2 := by
  have hden' : (den : ℚ) ≠ 0 := Nat.cast_ne_zero.2 hden.ne'
  unfold inUnits
  split
  · rename_i he
    refine ⟨Nat.mul_pos hden (Nat.pow_pos two_pos), ?_⟩
    have hpow : ((Nat.pow 2 e.toNat : ℕ) : ℚ) = 2 ^ e := by
      rw [Nat.pow_eq, Nat.cast_pow, Nat.cast_ofNat, zpow_toNat he]
    dsimp only
    rw [Nat.cast_mul, hpow]
    field_simp
  · rename_i he
    refine ⟨hden, ?_⟩
    have hpow : ((Nat.pow 2 (-e).toNat : ℕ) : ℚ) = (2 ^ e)⁻¹ := by
      rw [Nat.pow_eq, Nat.cast_pow, Nat.cast_ofNat, zpow_toNat (by omega), zpow_neg]
    dsimp only
    rw [Nat.cast_mul, hpow]
    field_simp

/-- Powers of two around a quotient. -/
private theorem log2_quotient {num den : ℕ} (hnum : 0 < num) (hden : 0 < den) :
    (2 : ℚ) ^ ((num.log2 : ℤ) - den.log2 - 1) < num / den ∧ (num / den : ℚ) < 2 ^ ((num.log2 : ℤ) - den.log2 + 1) := by
  have hden' : (0 : ℚ) < den := Nat.cast_pos.2 hden
  have hlow : ((2 : ℚ) ^ num.log2) ≤ num := by exact_mod_cast Nat.log2_self_le hnum.ne'
  have hhigh : (num : ℚ) < 2 ^ (num.log2 + 1) := by exact_mod_cast Nat.lt_log2_self
  have hlow' : ((2 : ℚ) ^ den.log2) ≤ den := by exact_mod_cast Nat.log2_self_le hden.ne'
  have hhigh' : (den : ℚ) < 2 ^ (den.log2 + 1) := by exact_mod_cast Nat.lt_log2_self
  have ha : (2 : ℚ) ^ ((num.log2 : ℤ) - den.log2 - 1) * 2 ^ (den.log2 + 1) = 2 ^ num.log2 := by
    rw [← zpow_natCast, ← zpow_natCast, ← zpow_add₀ two_ne_zero]
    congr 1
    push_cast
    ring
  have hb : (2 : ℚ) ^ ((num.log2 : ℤ) - den.log2 + 1) * 2 ^ den.log2 = 2 ^ (num.log2 + 1) := by
    rw [← zpow_natCast, ← zpow_natCast, ← zpow_add₀ two_ne_zero]
    congr 1
    push_cast
    ring
  rw [lt_div_iff₀ hden', div_lt_iff₀ hden']
  constructor
  · calc (2 : ℚ) ^ ((num.log2 : ℤ) - den.log2 - 1) * den
        < 2 ^ ((num.log2 : ℤ) - den.log2 - 1) * 2 ^ (den.log2 + 1) := by gcongr
      _ = 2 ^ num.log2 := ha
      _ ≤ num := hlow
  · calc (num : ℚ) < 2 ^ (num.log2 + 1) := hhigh
      _ = 2 ^ ((num.log2 : ℤ) - den.log2 + 1) * 2 ^ den.log2 := hb.symm
      _ ≤ 2 ^ ((num.log2 : ℤ) - den.log2 + 1) * den := by gcongr

/-- The exponent is the least one, or the one at which the quotient has 53 bits. -/
private theorem exponentFor_spec {num den : ℕ} (hnum : 0 < num) (hden : 0 < den) : ∃ g : ℤ,
    exponentFor num den = max (-1074) g ∧ (0x10000000000000 : ℚ) * 2 ^ g ≤ num / den ∧
      (num / den : ℚ) < 0x20000000000000 * 2 ^ g := by
  obtain ⟨hlow, hhigh⟩ := log2_quotient hnum hden
  obtain ⟨guess, hguess⟩ : ∃ g : ℤ, (num.log2 : ℤ) - den.log2 - 52 = g := ⟨_, rfl⟩
  have hexp : exponentFor num den = max (-1074)
      (if (inUnits num den guess).1 < (inUnits num den guess).2 * 0x10000000000000 then guess - 1 else guess) := by
    rw [← hguess]
    rfl
  obtain ⟨hpos, hunits⟩ := inUnits_spec num hden guess
  have hdpos : (0 : ℚ) < (inUnits num den guess).2 := Nat.cast_pos.2 hpos
  have hg : (0 : ℚ) < 2 ^ guess := by positivity
  have hlow' : (0x10000000000000 : ℚ) * 2 ^ (guess - 1) < num / den := by
    refine lt_of_eq_of_lt ?_ hlow
    rw [show (0x10000000000000 : ℚ) = 2 ^ (52 : ℤ) by norm_num, ← zpow_add₀ two_ne_zero]
    congr 1
    omega
  have hhigh' : (num / den : ℚ) < 0x20000000000000 * 2 ^ guess := by
    refine lt_of_lt_of_eq hhigh ?_
    rw [show (0x20000000000000 : ℚ) = 2 ^ (53 : ℤ) by norm_num, ← zpow_add₀ two_ne_zero]
    congr 1
    omega
  have hiff : (inUnits num den guess).1 < (inUnits num den guess).2 * 0x10000000000000 ↔
      (num / den : ℚ) < 0x10000000000000 * 2 ^ guess := by
    rw [← Nat.cast_lt (α := ℚ), hunits, Nat.cast_mul, mul_comm, mul_lt_mul_iff_right₀ hdpos, div_lt_iff₀ hg]
    norm_num
  rw [hexp]
  by_cases h : (inUnits num den guess).1 < (inUnits num den guess).2 * 0x10000000000000
  · rw [if_pos h]
    refine ⟨guess - 1, rfl, hlow'.le, (hiff.1 h).trans_eq ?_⟩
    rw [zpow_sub_one₀ two_ne_zero]
    ring
  · rw [if_neg h]
    exact ⟨guess, rfl, not_lt.1 fun hlt => h (hiff.2 hlt), hhigh'⟩

/-- A quotient rounds to the number of units that it is at most half a unit away from. -/
private theorem roundQuotient_inUnits {num den m : ℕ} {e : ℤ} (hden : 0 < den)
    (hlow : (m - 1 / 2 : ℚ) * 2 ^ e ≤ num / den) (hhigh : (num / den : ℚ) ≤ (m + 1 / 2) * 2 ^ e)
    (hstrict : m % 2 = 1 → (m - 1 / 2 : ℚ) * 2 ^ e < num / den ∧ (num / den : ℚ) < (m + 1 / 2) * 2 ^ e) :
    roundQuotient (inUnits num den e).1 (inUnits num den e).2 = m := by
  obtain ⟨hpos, hunits⟩ := inUnits_spec num hden e
  generalize (inUnits num den e).1 = n at *
  generalize (inUnits num den e).2 = d at *
  have hd : (0 : ℚ) < d := Nat.cast_pos.2 hpos
  have he : (0 : ℚ) < 2 ^ e := by positivity
  rw [← le_div_iff₀ he, ← lt_div_iff₀ he] at *
  rw [← div_le_iff₀ he, ← div_lt_iff₀ he] at *
  generalize (num / den : ℚ) / 2 ^ e = q at *
  have hmd : ((m * d : ℕ) : ℚ) = m * d := Nat.cast_mul m d
  refine roundQuotient_eq ?_ ?_ (fun hodd => ⟨?_, ?_⟩) hpos
  · have : (m - 1 / 2 : ℚ) * d ≤ q * d := by gcongr
    have : (2 * (m * d : ℕ) : ℚ) ≤ 2 * n + d := by linarith
    exact_mod_cast this
  · have : q * d ≤ (m + 1 / 2 : ℚ) * d := by gcongr
    have : (2 * n : ℚ) ≤ 2 * (m * d : ℕ) + d := by linarith
    exact_mod_cast this
  · have : (m - 1 / 2 : ℚ) * d < q * d := by gcongr; exact (hstrict hodd).1
    have : (2 * (m * d : ℕ) : ℚ) < 2 * n + d := by linarith
    exact_mod_cast this
  · have : q * d < (m + 1 / 2 : ℚ) * d := by gcongr; exact (hstrict hodd).2
    have : (2 * n : ℚ) < 2 * (m * d : ℕ) + d := by linarith
    exact_mod_cast this

private theorem le_of_zpow_lt {g e : ℤ} (h : (2 : ℚ) ^ g < 2 * 2 ^ e) : g ≤ e := by
  rw [← zpow_one_add₀ two_ne_zero, zpow_lt_zpow_iff_right₀ one_lt_two] at h
  omega

theorem slack_pos (x : Magnitude) : 0 < x.slack := by
  unfold slack
  split <;> norm_num

theorem slack_le (x : Magnitude) : x.slack ≤ 1 / 2 := by
  unfold slack
  split <;> norm_num

private theorem make?_self (x : Magnitude) : make? x.mantissa x.exponent = some x := dif_pos x.canonical

private theorem ofRatio?_of_ne_zero {num den : ℕ} (h : num ≠ 0) {e : ℤ} (he : exponentFor num den = e) {m : ℕ}
    (hm : roundQuotient (inUnits num den e).1 (inUnits num den e).2 = m) :
    ofRatio? num den = if m = 0x20000000000000 then make? 0x10000000000000 (e + 1) else make? m e := by
  unfold ofRatio?
  rw [if_neg h, he]
  dsimp only
  rw [hm]

/-- A quotient that rounds to a magnitude is rounded to it. -/
theorem ofRatio?_eq_some {x : Magnitude} {num den : ℕ} (hnum : 0 < num) (hden : 0 < den) (h : x.Near (num / den)) :
    ofRatio? num den = some x := by
  obtain ⟨g, hexp, hg, hg'⟩ := exponentFor_spec hnum hden
  obtain ⟨hlow, hhigh, hstrict⟩ := h
  obtain ⟨hm, hle, -, hnormal⟩ := x.canonical
  have hm' : (x.mantissa : ℚ) ≤ 0x20000000000000 - 1 := by
    have : x.mantissa + 1 ≤ 0x20000000000000 := hm
    have : (x.mantissa : ℚ) + 1 ≤ 0x20000000000000 := by exact_mod_cast this
    linarith
  have he : (0 : ℚ) < 2 ^ x.exponent := by positivity
  by_cases hcarry : x.exponent ≠ -1074 ∧ (num / den : ℚ) < 0x10000000000000 * 2 ^ x.exponent
  · -- below the first mantissa of the exponent the quotient is rounded to the last mantissa and one more
    obtain ⟨hne, hlt⟩ := hcarry
    have hfirst : x.mantissa = 0x10000000000000 := by
      refine le_antisymm ?_ (hnormal.resolve_right hne)
      by_contra! hgt
      have : (0x10000000000000 : ℚ) + 1 ≤ x.mantissa := by exact_mod_cast hgt
      have := x.slack_le
      have : (0x10000000000000 : ℚ) * 2 ^ x.exponent ≤ (x.mantissa - x.slack) * 2 ^ x.exponent := by
        gcongr
        linarith
      linarith
    have hslack : x.slack = 1 / 4 := if_pos ⟨hfirst, hne⟩
    have hhalf : (2 : ℚ) ^ x.exponent = 2 * 2 ^ (x.exponent - 1) := by
      rw [← zpow_one_add₀ two_ne_zero]
      congr 1
      omega
    have he' : (0 : ℚ) < 2 ^ (x.exponent - 1) := by positivity
    have hfirst' : (x.mantissa : ℚ) = 0x10000000000000 := by exact_mod_cast hfirst
    rw [hslack, hfirst', hhalf] at hlow
    rw [hhalf] at hlt
    have hge : g = x.exponent - 1 := by
      refine le_antisymm (le_of_zpow_lt ?_) (le_of_zpow_lt ?_)
      · linarith
      · linarith
    have hexp' : exponentFor num den = x.exponent - 1 := by
      rw [hexp, hge]
      omega
    have hround : roundQuotient (inUnits num den (x.exponent - 1)).1 (inUnits num den (x.exponent - 1)).2 =
        0x20000000000000 := by
      refine roundQuotient_inUnits hden ?_ ?_ fun hodd => absurd hodd (by decide)
      · push_cast
        linarith
      · push_cast
        linarith
    rw [ofRatio?_of_ne_zero hnum.ne' hexp' hround, if_pos rfl, sub_add_cancel, ← hfirst]
    exact make?_self x
  · have hge : g ≤ x.exponent := by
      refine le_of_zpow_lt ?_
      have : (x.mantissa + 1 / 2 : ℚ) * 2 ^ x.exponent < 0x20000000000000 * 2 ^ x.exponent := by
        gcongr
        linarith
      linarith
    have hexp' : exponentFor num den = x.exponent := by
      rw [hexp]
      by_cases hne : x.exponent = -1074
      · omega
      · have hr : 0x10000000000000 * 2 ^ x.exponent ≤ (num / den : ℚ) := not_lt.1 fun hlt => hcarry ⟨hne, hlt⟩
        have : x.exponent ≤ g := by
          refine le_of_zpow_lt ?_
          linarith
        omega
    have hslack : (x.mantissa - 1 / 2 : ℚ) * 2 ^ x.exponent ≤ (x.mantissa - x.slack) * 2 ^ x.exponent := by
      gcongr
      exact x.slack_le
    have hround : roundQuotient (inUnits num den x.exponent).1 (inUnits num den x.exponent).2 = x.mantissa :=
      roundQuotient_inUnits hden (hslack.trans hlow) hhigh fun hodd =>
        ⟨hslack.trans_lt (hstrict hodd).1, (hstrict hodd).2⟩
    rw [ofRatio?_of_ne_zero hnum.ne' hexp' hround, if_neg hm.ne]
    exact make?_self x

/-- Whole numbers of 64 bits are not too large. -/
theorem exists_ofRatio?_eq_some {n : ℕ} (hlow : 0x8000000000000000 ≤ n) (hhigh : n < 0x10000000000000000) :
    ∃ x, ofRatio? n 1 = some x := by
  have hn : 0 < n := by omega
  obtain ⟨g, hexp, hg, hg'⟩ := exponentFor_spec hn one_pos
  have hlow' : (0x8000000000000000 : ℚ) ≤ n := by exact_mod_cast hlow
  have hhigh' : (n : ℚ) < 0x10000000000000000 := by exact_mod_cast hhigh
  rw [Nat.cast_one, div_one] at hg hg'
  have hexp' : exponentFor n 1 = 11 := by
    have hle : g ≤ 11 := le_of_zpow_lt (by norm_num; linarith)
    have hge : 11 ≤ g := le_of_zpow_lt (by norm_num; linarith)
    omega
  obtain ⟨hround, hround'⟩ := le_roundQuotient_le n 2048
  rw [ofRatio?_of_ne_zero (by omega) hexp' (m := roundQuotient n 2048) rfl]
  split
  · exact ⟨_, dif_pos (by decide)⟩
  · exact ⟨_, dif_pos ⟨by omega, by decide, by decide, .inl (by omega)⟩⟩

/-! ### Decimals -/

theorem lt_pow_digitCount (n : ℕ) : n < 10 ^ digitCount n :=
  (Nat.length_toDigits_le_iff (by decide) Nat.length_toDigits_pos).1 (Nat.le_refl (digitCount n))

theorem pow_digitCount_le {n : ℕ} (hn : 0 < n) : 10 ^ (digitCount n - 1) ≤ n := by
  by_contra! h
  by_cases hone : digitCount n - 1 = 0
  · rw [hone, pow_zero] at h
    omega
  · have := (Nat.length_toDigits_le_iff (by decide) (by omega)).2 h
    unfold digitCount at *
    omega

/-- A decimal lies between two powers of ten. -/
private theorem zpow_place {n : ℕ} (hn : 0 < n) (e : ℤ) :
    (10 : ℚ) ^ (e + digitCount n - 1) ≤ n * 10 ^ e ∧ (n * 10 ^ e : ℚ) < 10 ^ (e + digitCount n) := by
  have hlow : ((10 : ℚ) ^ (digitCount n - 1)) ≤ n := by exact_mod_cast pow_digitCount_le hn
  have hhigh : (n : ℚ) < 10 ^ digitCount n := by exact_mod_cast lt_pow_digitCount n
  have hpos : 0 < digitCount n := Nat.length_toDigits_pos
  have ha : (10 : ℚ) ^ (e + digitCount n - 1) = 10 ^ (digitCount n - 1) * 10 ^ e := by
    rw [← zpow_natCast, ← zpow_add₀ (by norm_num)]
    congr 1
    omega
  have hb : (10 : ℚ) ^ (e + digitCount n) = 10 ^ digitCount n * 10 ^ e := by
    rw [← zpow_natCast, ← zpow_add₀ (by norm_num)]
    congr 1
    omega
  rw [ha, hb]
  constructor
  · gcongr
  · gcongr

private theorem two_zpow_le (k : ℕ) : (2 : ℚ) ^ (3 * k : ℤ) ≤ 10 ^ (k : ℤ) := by
  rw [zpow_mul, zpow_natCast, zpow_natCast]
  exact pow_le_pow_left₀ (by norm_num) (by norm_num) k

/-- Numbers that round to a magnitude other than zero have a limited number of places. -/
private theorem place_of_near {x : Magnitude} (hx : x.mantissa ≠ 0) {n : ℕ} (hn : 0 < n) {e : ℤ}
    (h : x.Near (n * 10 ^ e)) : -400 ≤ e + digitCount n ∧ e + digitCount n ≤ 400 := by
  obtain ⟨hm, hle, hge, -⟩ := x.canonical
  obtain ⟨hlow, hhigh⟩ := zpow_place hn e
  constructor
  · by_contra! hlt
    have hone : (1 : ℚ) ≤ x.mantissa := by exact_mod_cast Nat.one_le_iff_ne_zero.2 hx
    have hslack := x.slack_le
    have htwo : (2 : ℚ) ^ (-1074 : ℤ) ≤ 2 ^ x.exponent := zpow_le_zpow_right₀ one_le_two hle
    have hten : (10 : ℚ) ^ (e + digitCount n) ≤ 10 ^ (-401 : ℤ) := zpow_le_zpow_right₀ (by norm_num) (by omega)
    have hmin : (1 / 2 : ℚ) * 2 ^ (-1074 : ℤ) ≤ (x.mantissa - x.slack) * 2 ^ x.exponent := by
      exact mul_le_mul (by linarith) htwo (by positivity) (by linarith)
    have hsmall : (10 : ℚ) ^ (-401 : ℤ) < 1 / 2 * 2 ^ (-1074 : ℤ) :=
      calc (10 : ℚ) ^ (-401 : ℤ) < 10 ^ (-(359 : ℕ) : ℤ) := zpow_lt_zpow_right₀ (by norm_num) (by norm_num)
        _ ≤ 2 ^ (-(3 * (359 : ℕ)) : ℤ) := by
          rw [zpow_neg, zpow_neg]
          exact inv_anti₀ (by positivity) (two_zpow_le 359)
        _ ≤ 2 ^ (-1 + -1074 : ℤ) := zpow_le_zpow_right₀ one_le_two (by norm_num)
        _ = 1 / 2 * 2 ^ (-1074 : ℤ) := by rw [zpow_add₀ two_ne_zero, zpow_neg_one, one_div]
    exact absurd (hmin.trans h.low) (not_le.2 ((hhigh.trans_le hten).trans hsmall))
  · by_contra! hgt
    have hm' : (x.mantissa : ℚ) + 1 ≤ 0x20000000000000 := by exact_mod_cast hm
    have htwo : (2 : ℚ) ^ x.exponent ≤ 2 ^ (971 : ℤ) := zpow_le_zpow_right₀ one_le_two hge
    have hten : (10 : ℚ) ^ (400 : ℤ) ≤ 10 ^ (e + digitCount n - 1) := zpow_le_zpow_right₀ (by norm_num) (by omega)
    have hmax : (x.mantissa + 1 / 2 : ℚ) * 2 ^ x.exponent ≤ 0x20000000000000 * 2 ^ (971 : ℤ) := by
      exact mul_le_mul (by linarith) htwo (by positivity) (by norm_num)
    have hlarge : (0x20000000000000 : ℚ) * 2 ^ (971 : ℤ) < 10 ^ (400 : ℤ) :=
      calc (0x20000000000000 : ℚ) * 2 ^ (971 : ℤ) = 2 ^ (53 + 971 : ℤ) := by
            rw [zpow_add₀ two_ne_zero]
            norm_num
        _ ≤ 2 ^ (3 * (342 : ℕ) : ℤ) := zpow_le_zpow_right₀ one_le_two (by norm_num)
        _ ≤ 10 ^ ((342 : ℕ) : ℤ) := two_zpow_le 342
        _ < 10 ^ (400 : ℤ) := zpow_lt_zpow_right₀ (by norm_num) (by norm_num)
    exact absurd (hten.trans (hlow.trans (h.high.trans hmax))) (not_le.2 hlarge)

/-- A decimal that rounds to a magnitude is rounded to it. -/
theorem ofDecimal?_eq_some {x : Magnitude} {n : ℕ} {e : ℤ} (hn : 0 < n) (h : x.Near (n * 10 ^ e)) :
    ofDecimal? n e = some x := by
  unfold ofDecimal?
  split
  · rename_i he
    refine ofRatio?_eq_some (Nat.mul_pos hn (Nat.pow_pos (by decide))) one_pos ?_
    rw [Nat.cast_mul, Nat.pow_eq, Nat.cast_pow, Nat.cast_ofNat, zpow_toNat he, Nat.cast_one, div_one]
    exact h
  · rename_i he
    refine ofRatio?_eq_some hn (Nat.pow_pos (by decide)) ?_
    rw [Nat.pow_eq, Nat.cast_pow, Nat.cast_ofNat, zpow_toNat (by omega), zpow_neg, div_inv_eq_mul]
    exact h

end Signpost.Magnitude

namespace Signpost.Binary64

/-- A decimal that rounds to a magnitude other than zero is the number nearest to it. -/
theorem ofDecimal_eq_finite {x : Magnitude} (hx : x.mantissa ≠ 0) {n : ℕ} (hn : 0 < n) {e : ℤ}
    (h : x.Near (n * 10 ^ e)) (negative : Bool) : ofDecimal negative n e = .finite negative x := by
  obtain ⟨hlow, hhigh⟩ := Magnitude.place_of_near hx hn h
  unfold ofDecimal
  dsimp only
  rw [if_neg (by omega), if_neg (by omega), Magnitude.ofDecimal?_eq_some hn h]

/-- Whole numbers of 64 bits are rounded to finite ones. -/
theorem exists_ofDecimal_eq_finite {n : ℕ} (hlow : 0x8000000000000000 ≤ n) (hhigh : n < 0x10000000000000000)
    (negative : Bool) : ∃ x, ofDecimal negative n 0 = .finite negative x := by
  obtain ⟨x, hx⟩ := Magnitude.exists_ofRatio?_eq_some hlow hhigh
  have hcount : Magnitude.digitCount n ≤ 20 :=
    (Nat.length_toDigits_le_iff (by decide) (by decide)).2 (hhigh.trans (by decide))
  have hx' : Magnitude.ofDecimal? n 0 = some x := by
    rw [Magnitude.ofDecimal?, if_pos le_rfl]
    simpa using hx
  refine ⟨x, ?_⟩
  unfold ofDecimal
  dsimp only
  rw [if_neg (by omega), if_neg (by omega), hx']

end Signpost.Binary64
