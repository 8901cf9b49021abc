import Mathlib.Data.Int.Log
import Mathlib.Data.Rat.Floor
import Mishap.Number.Decimal
import Mishap.Proofs.Number.Rounded

/-!
Rounding to significant digits. Main statements: the decimal that a positive number is rounded to has the digits asked
for and is the nearest one, of two the even one; and the decimal of a fixed number of places is the same one if the
places end at the last of these digits, also where rounding carries into a further digit.
-/

namespace Mishap

open Number (Ratio)

namespace Decimal

def value (d : Decimal) : ℚ := d.digits * 10 ^ d.exponent

/-- What the last of so many significant digits of a number counts. -/
def lastPlace (count : ℕ) (q : ℚ) : ℚ := 10 ^ (Int.log 10 q + 1 - count)

/-- `y` is `q` rounded to `count` significant digits, a half going to the even neighbour. -/
def IsRounding (count : ℕ) (q y : ℚ) : Prop :=
  ∃ n : ℤ, y = n * lastPlace count q ∧
    (|q - y| < lastPlace count q / 2 ∨ |q - y| = lastPlace count q / 2 ∧ Even n)

variable {x : Ratio} {count places : ℕ} {q y z : ℚ}

theorem lastPlace_pos (count : ℕ) (q : ℚ) : 0 < lastPlace count q := zpow_pos (by norm_num) _

theorem IsRounding.abs_sub_le (h : IsRounding count q y) : |q - y| ≤ lastPlace count q / 2 := by
  obtain ⟨-, -, hless | ⟨htie, -⟩⟩ := h
  · exact hless.le
  · exact htie.le

/-- Two multiples of the last place are as far apart as both of them are from a number, at most. -/
theorem abs_sub_mul_lastPlace_le (count : ℕ) (q : ℚ) (n m : ℤ) :
    |((n - m : ℤ) : ℚ)| * lastPlace count q ≤ |q - n * lastPlace count q| + |q - m * lastPlace count q| := by
  have hplace := lastPlace_pos count q
  rw [← abs_of_pos hplace, ← abs_mul, abs_of_pos hplace, abs_sub_comm q (n * _)]
  refine le_trans (le_of_eq ?_) (abs_add_le _ _)
  push_cast
  ring_nf

/-- Two multiples within half a place lie on either side, and they are not both even. -/
theorem IsRounding.unique (hy : IsRounding count q y) (hz : IsRounding count q z) : y = z := by
  have hplace := lastPlace_pos count q
  have hyhalf := hy.abs_sub_le
  have hzhalf := hz.abs_sub_le
  obtain ⟨n, rfl, hn⟩ := hy
  obtain ⟨m, rfl, hm⟩ := hz
  by_contra hne
  have hapart : n ≠ m := fun heq => hne (by rw [heq])
  have hdistance := abs_sub_mul_lastPlace_le count q n m
  have hone : (1 : ℚ) ≤ |((n - m : ℤ) : ℚ)| := by exact_mod_cast Int.one_le_abs (sub_ne_zero.2 hapart)
  have hmore : lastPlace count q ≤ |((n - m : ℤ) : ℚ)| * lastPlace count q := le_mul_of_one_le_left hplace.le hone
  -- one place apart, both are half a place away, and so both are even
  have hneven : Even n := (hn.resolve_left (by linarith)).2
  have hmeven : Even m := (hm.resolve_left (by linarith)).2
  obtain ⟨k, hk⟩ := hneven.sub hmeven
  have htwo : (2 : ℚ) ≤ |((n - m : ℤ) : ℚ)| := by
    have : 2 ≤ |n - m| := by
      rw [le_abs]
      omega
    exact_mod_cast this
  have hfar := mul_le_mul_of_nonneg_right htwo hplace.le
  linarith

/-! ### Powers of ten -/

theorem log_eq_of_bounds {e : ℤ} (hlow : 10 ^ e ≤ q) (hhigh : q < 10 ^ (e + 1)) : Int.log 10 q = e := by
  have hpos : 0 < q := (zpow_pos (by norm_num : (0 : ℚ) < 10) e).trans_le hlow
  have hle : e ≤ Int.log 10 q := (Int.zpow_le_iff_le_log (b := 10) (by norm_num) hpos).1 (by exact_mod_cast hlow)
  have hlt : Int.log 10 q < e + 1 := (Int.lt_zpow_iff_log_lt (b := 10) (by norm_num) hpos).1 (by exact_mod_cast hhigh)
  omega

theorem log_bounds (hq : 0 < q) : (10 : ℚ) ^ Int.log 10 q ≤ q ∧ q < 10 ^ (Int.log 10 q + 1) :=
  ⟨by exact_mod_cast Int.zpow_log_le_self (b := 10) (by norm_num) hq,
    by exact_mod_cast Int.lt_zpow_succ_log_self (b := 10) (by norm_num) q⟩

theorem digitCount_pos (n : ℕ) : 0 < digitCount n := Nat.length_toDigits_pos

theorem digitCount_le_iff {n k : ℕ} (hk : 0 < k) : digitCount n ≤ k ↔ n < 10 ^ k :=
  Nat.length_toDigits_le_iff (by norm_num) hk

theorem lt_pow_digitCount (n : ℕ) : n < 10 ^ digitCount n := (digitCount_le_iff (digitCount_pos n)).1 le_rfl

theorem pow_digitCount_le {n : ℕ} (hn : 0 < n) : 10 ^ (digitCount n - 1) ≤ n := by
  rcases Nat.eq_zero_or_pos (digitCount n - 1) with hone | hmore
  · rw [hone]
    exact hn
  · refine not_lt.1 fun hless => ?_
    have := (digitCount_le_iff hmore).2 hless
    omega

theorem digitCount_eq {n k : ℕ} (hlow : 10 ^ k ≤ n) (hhigh : n < 10 ^ (k + 1)) : digitCount n = k + 1 := by
  have hle := (digitCount_le_iff k.succ_pos).2 hhigh
  have hlt : k < digitCount n := by
    refine (Nat.pow_lt_pow_iff_right (by norm_num : 1 < 10)).1 (hlow.trans_lt (lt_pow_digitCount n))
  omega

theorem scientific_exponent (d : Decimal) : d.scientific.exponent = d.exponent + digitCount d.digits - 1 := rfl

/-- The exponent of a decimal is that of the first digit. -/
theorem log_value {d : Decimal} (h : 0 < d.digits) : Int.log 10 d.value = d.scientific.exponent := by
  have hpos := digitCount_pos d.digits
  have hten : (0 : ℚ) < 10 ^ d.exponent := zpow_pos (by norm_num) _
  have hlow : ((10 ^ (digitCount d.digits - 1) : ℕ) : ℚ) ≤ d.digits := by exact_mod_cast pow_digitCount_le h
  have hhigh : (d.digits : ℚ) < (10 ^ digitCount d.digits : ℕ) := by exact_mod_cast lt_pow_digitCount d.digits
  push_cast at hlow hhigh
  apply log_eq_of_bounds
  · calc (10 : ℚ) ^ d.scientific.exponent = 10 ^ (digitCount d.digits - 1) * 10 ^ d.exponent := by
          rw [← zpow_natCast, ← zpow_add₀ (by norm_num), scientific_exponent]
          congr 1
          omega
      _ ≤ d.value := mul_le_mul_of_nonneg_right hlow hten.le
  · calc d.value < 10 ^ digitCount d.digits * 10 ^ d.exponent := mul_lt_mul_of_pos_right hhigh hten
      _ = 10 ^ (d.scientific.exponent + 1) := by
          rw [← zpow_natCast, ← zpow_add₀ (by norm_num), scientific_exponent]
          congr 1
          omega

theorem log_of_whole (hden : 0 < x.den) (hwhole : x.den ≤ x.num) :
    Int.log 10 x.value = digitCount (x.num / x.den) - 1 := by
  have hcount := digitCount_pos (x.num / x.den)
  apply log_eq_of_bounds
  · have hlow := (Ratio.le_value_iff hden).2 (pow_digitCount_le (Nat.div_pos hwhole hden))
    refine le_trans (le_of_eq ?_) hlow
    rw [Nat.cast_pow, ← zpow_natCast]
    congr 1
    omega
  · have hhigh : x.value < (10 ^ digitCount (x.num / x.den) : ℕ) := by
      rw [← not_le, Ratio.le_value_iff hden, not_le]
      exact lt_pow_digitCount _
    refine hhigh.trans_eq ?_
    rw [Nat.cast_pow, ← zpow_natCast]
    congr 1
    omega

/-- Below one the inverse, rounded up, is at most a power of ten. -/
theorem log_of_below (hnum : 0 < x.num) (hden : 0 < x.den) (hbelow : x.num < x.den) :
    Int.log 10 x.value = -digitCount ((x.den - 1) / x.num) := by
  have hpos : (0 : ℚ) < x.den := Nat.cast_pos.2 hden
  set inverse := (x.den - 1) / x.num
  have hcount := digitCount_pos inverse
  apply log_eq_of_bounds
  · have hhigh : x.den ≤ x.num * 10 ^ digitCount inverse := by
      have hless : x.den - 1 < 10 ^ digitCount inverse * x.num :=
        (Nat.div_lt_iff_lt_mul hnum).1 (lt_pow_digitCount inverse)
      rw [Nat.mul_comm] at hless
      omega
    rw [Ratio.value, zpow_neg, zpow_natCast, inv_eq_one_div, div_le_div_iff₀ (by positivity) hpos, one_mul]
    exact_mod_cast hhigh
  · have hlow : x.num * 10 ^ (digitCount inverse - 1) < x.den := by
      have hpositive : 0 < inverse := Nat.div_pos (by omega) hnum
      have hless : 10 ^ (digitCount inverse - 1) * x.num ≤ x.den - 1 :=
        (Nat.le_div_iff_mul_le hnum).1 (pow_digitCount_le hpositive)
      rw [Nat.mul_comm] at hless
      omega
    have hpower : -(digitCount inverse : ℤ) + 1 = -((digitCount inverse - 1 : ℕ) : ℤ) := by omega
    rw [hpower, Ratio.value, zpow_neg, zpow_natCast, inv_eq_one_div, div_lt_div_iff₀ hpos (by positivity), one_mul]
    exact_mod_cast hlow

/-- Digits are counted in the whole part, or for a number below one in the whole part of its inverse. -/
theorem decimalExponent_eq_log (hnum : 0 < x.num) (hden : 0 < x.den) : decimalExponent x = Int.log 10 x.value := by
  rw [decimalExponent]
  split
  · next hwhole => exact (log_of_whole hden hwhole).symm
  · next hbelow => exact (log_of_below hnum hden (Nat.lt_of_not_le hbelow)).symm

/-! ### Rounding -/

/-- How many steps of the last place are nearest to a number. -/
def steps (places : ℕ) (x : Ratio) : ℕ := (x.scale 10 (-(decimalExponent x - places))).round .toEven

theorem value_scale_ten (x : Ratio) (power : ℤ) : (x.scale 10 power).value = x.value * 10 ^ power := by
  have hten : (10 : ℕ) ≠ 0 := by norm_num
  exact_mod_cast Ratio.value_scale (x := x) hten power

theorem den_scale_ten_pos (hden : 0 < x.den) (power : ℤ) : 0 < (x.scale 10 power).den :=
  Ratio.den_scale_pos (by norm_num) hden power

theorem le_value_scale_ten_iff {k : ℕ} {power : ℤ} :
    ((10 ^ k : ℕ) : ℚ) ≤ (x.scale 10 power).value ↔ (10 : ℚ) ^ (k - power) ≤ x.value := by
  have hten : (0 : ℚ) < 10 ^ power := zpow_pos (by norm_num) _
  rw [value_scale_ten, zpow_sub₀ (by norm_num), div_le_iff₀ hten, zpow_natCast, Nat.cast_pow, Nat.cast_ofNat]

theorem rounded_eq (places : ℕ) (x : Ratio) :
    rounded places x =
      if steps places x = 10 ^ (places + 1) then ⟨10 ^ places, decimalExponent x - places + 1⟩
      else ⟨steps places x, decimalExponent x - places⟩ := rfl

theorem value_rounded (places : ℕ) (x : Ratio) :
    (rounded places x).value = steps places x * 10 ^ (decimalExponent x - places) := by
  rw [rounded_eq]
  split
  · next hcarried =>
    rw [hcarried, value, Nat.cast_pow, Nat.cast_pow, pow_succ, mul_assoc, Nat.cast_ofNat,
      ← zpow_one_add₀ (by norm_num : (10 : ℚ) ≠ 0), add_comm 1]
  · rfl

variable (hnum : 0 < x.num) (hden : 0 < x.den)
include hnum hden

theorem pow_le_steps : 10 ^ places ≤ steps places x := by
  refine Ratio.le_round (den_scale_ten_pos hden _) ?_
  rw [le_value_scale_ten_iff, decimalExponent_eq_log hnum hden, sub_neg_eq_add, add_sub_cancel]
  exact (log_bounds (Ratio.value_pos hnum hden)).1

theorem value_scale_lt : (x.scale 10 (-(decimalExponent x - places))).value < (10 ^ (places + 1) : ℕ) := by
  rw [← not_le, le_value_scale_ten_iff, not_le, decimalExponent_eq_log hnum hden]
  refine (log_bounds (Ratio.value_pos hnum hden)).2.trans_eq ?_
  congr 1
  omega

theorem steps_le : steps places x ≤ 10 ^ (places + 1) :=
  Ratio.round_le (den_scale_ten_pos hden _) (value_scale_lt hnum hden)

/-- There are as many digits as are asked for. -/
theorem digitCount_rounded : digitCount (rounded places x).digits = places + 1 := by
  rw [rounded_eq]
  split
  · exact digitCount_eq le_rfl (Nat.pow_lt_pow_right (by norm_num) (by omega))
  · next hsmall => exact digitCount_eq (pow_le_steps hnum hden) (lt_of_le_of_ne (steps_le hnum hden) hsmall)

theorem rounded_pos : 0 < (rounded places x).digits := by
  refine Nat.pos_of_ne_zero fun hzero => ?_
  have hpositive : 0 < 10 ^ places := by positivity
  have hsteps : 10 ^ places ≤ steps places x := pow_le_steps hnum hden
  rw [rounded_eq] at hzero
  split at hzero
  · exact hpositive.ne' hzero
  · exact (hpositive.trans_le hsteps).ne' hzero

theorem isRounding_rounded (hcount : count = places + 1) : IsRounding count x.value (rounded places x).value := by
  have hplace : lastPlace count x.value = 10 ^ (decimalExponent x - places) := by
    rw [lastPlace, decimalExponent_eq_log hnum hden, hcount]
    congr 1
    omega
  have hpos : (0 : ℚ) < 10 ^ (decimalExponent x - places) := zpow_pos (by norm_num) _
  have hdistance : |x.value - steps places x * 10 ^ (decimalExponent x - places)| =
      |(x.scale 10 (-(decimalExponent x - places))).value - steps places x| * 10 ^ (decimalExponent x - places) := by
    rw [value_scale_ten, zpow_neg, ← abs_of_pos hpos, ← abs_mul, abs_of_pos hpos, sub_mul,
      inv_mul_cancel_right₀ hpos.ne']
  refine ⟨steps places x, ?_, ?_⟩
  · rw [value_rounded, hplace, Int.cast_natCast]
  · rw [value_rounded, hplace, hdistance, div_eq_inv_mul, ← one_div]
    rcases Ratio.abs_sub_round (den_scale_ten_pos hden (-(decimalExponent x - places))) with hless | ⟨htie, heven⟩
    · exact .inl (mul_lt_mul_of_pos_right hless hpos)
    · exact .inr ⟨congrArg (· * _) htie, by exact_mod_cast heven⟩

/-- A number that is carried to a power of ten is so near to it that the place before the last one is carried as well. -/
theorem round_of_carried (h : steps places x = 10 ^ (places + 1)) {decimals : ℕ}
    (hdecimals : (decimals : ℤ) = -(decimalExponent x - places) - 1) :
    (x.scale 10 decimals).round .toEven = 10 ^ places := by
  set grid := -(decimalExponent x - places) with hgrid
  have hscaled : (x.scale 10 decimals).value = (x.scale 10 grid).value / 10 := by
    rw [value_scale_ten, value_scale_ten, hdecimals, zpow_sub_one₀ (by norm_num), ← mul_assoc, div_eq_mul_inv]
  have hhigh : (x.scale 10 grid).value < (10 ^ (places + 1) : ℕ) := value_scale_lt hnum hden
  have hnear : |(x.scale 10 grid).value - (10 ^ (places + 1) : ℕ)| ≤ 1 / 2 := by
    have hhalf := Ratio.abs_sub_round_le_half (den_scale_ten_pos hden grid)
    rwa [show (x.scale 10 grid).round .toEven = 10 ^ (places + 1) from h] at hhalf
  -- a tenth of the distance is no half any more
  have hclose : |(x.scale 10 decimals).value - ((10 ^ places : ℕ) : ℤ)| < 1 / 2 := by
    rw [hscaled]
    push_cast at hnear hhigh ⊢
    rw [abs_le] at hnear
    rw [abs_lt]
    constructor <;> rw [pow_succ] at * <;> linarith
  by_contra hne
  exact absurd hclose (not_lt.2 (Ratio.half_le_abs_sub (den_scale_ten_pos hden _)
    (by exact_mod_cast Ne.symm hne)))

/-- Places that end at the last digit of the rounded number are rounded to the same number. -/
theorem value_fixed {decimals : ℕ} (h : (decimals : ℤ) = places - (rounded places x).scientific.exponent) :
    (fixed decimals x).value = (rounded places x).value := by
  have hexponent : (rounded places x).exponent = -decimals := by
    rw [scientific, digitCount_rounded hnum hden] at h
    push_cast at h
    omega
  rw [fixed, value, value, hexponent]
  congr 2
  rw [rounded_eq] at hexponent ⊢
  split
  · next hcarried =>
    rw [if_pos hcarried] at hexponent
    refine round_of_carried hnum hden hcarried ?_
    simp only at hexponent
    omega
  · next hsmall =>
    rw [if_neg hsmall] at hexponent
    have hdecimals : (decimals : ℤ) = -(decimalExponent x - places) := by
      simp only at hexponent
      omega
    simp only [steps, hdecimals]

omit hnum

/-! ### Zero -/

/-- The number that is written with one digit and `places` more. -/
def roundedValue (places : ℕ) (x : Ratio) : ℚ := if x.num = 0 then 0 else (rounded places x).value

theorem isRounding_roundedValue (hcount : count = places + 1) :
    IsRounding count x.value (roundedValue places x) := by
  rw [roundedValue]
  split
  · next hzero =>
    have hvalue : x.value = 0 := by rw [Ratio.value, hzero, Nat.cast_zero, zero_div]
    refine ⟨0, by rw [Int.cast_zero, zero_mul], .inl ?_⟩
    rw [hvalue, sub_zero, abs_zero]
    exact half_pos (lastPlace_pos _ _)
  · next hnum => exact isRounding_rounded (Nat.pos_of_ne_zero hnum) hden hcount

theorem log_roundedValue : Int.log 10 (roundedValue places x) = (roundedScientific places x).exponent := by
  rw [roundedValue, roundedScientific]
  split
  · exact Int.log_of_right_le_zero 10 le_rfl
  · next hnum => exact log_value (rounded_pos (Nat.pos_of_ne_zero hnum) hden)

theorem value_fixed_of_exponent {decimals : ℕ} (h : (decimals : ℤ) = places - (roundedScientific places x).exponent) :
    (fixed decimals x).value = roundedValue places x := by
  rw [roundedScientific] at h
  rw [roundedValue]
  split
  · next hzero =>
    have hround : (x.scale 10 decimals).round .toEven = 0 := by
      refine Ratio.round_of_value_eq (den_scale_ten_pos hden _) ?_
      rw [value_scale_ten, Ratio.value, hzero, Nat.cast_zero, zero_div, zero_mul]
    rw [fixed, value, hround, Nat.cast_zero, zero_mul]
  · next hnum =>
    rw [if_neg hnum] at h
    exact value_fixed (Nat.pos_of_ne_zero hnum) hden h

end Decimal

end Mishap
