import Mathlib.Algebra.Order.Field.Power
import Mathlib.Data.Rat.Cast.Order
import Mathlib.Tactic.Positivity
import Mishap.Number.Binary64

/-!
Rounding by value. Main statements: the significand and scale that rounding into a width finds are ones of that width,
and rounding a number that has such a significand and scale finds these.
-/

namespace Mishap

namespace Number.Ratio

/-- The rational number that a quotient stands for. -/
def value (x : Ratio) : ℚ := x.num / x.den

variable {x : Ratio}

theorem value_scale {base : ℕ} (hbase : base ≠ 0) (power : ℤ) : (x.scale base power).value = x.value * base ^ power := by
  have hpower : power = power.toNat - (-power).toNat := by omega
  conv_rhs => rw [hpower, zpow_sub₀ (Nat.cast_ne_zero.2 hbase), zpow_natCast, zpow_natCast]
  simp only [value, scale, Nat.pow_eq, Nat.cast_mul, Nat.cast_pow]
  rw [div_mul_div_comm]

theorem value_scale_two (x : Ratio) (power : ℤ) : (x.scale 2 power).value = x.value * 2 ^ power := value_scale two_ne_zero power

/-- Scaling down compares with a power of two as the number itself with a greater one. -/
theorem le_value_scale_neg_iff {n : ℕ} {k : ℤ} :
    ((2 ^ n : ℕ) : ℚ) ≤ (x.scale 2 (-k)).value ↔ (2 : ℚ) ^ (n + k : ℤ) ≤ x.value := by
  rw [value_scale_two, zpow_neg, ← div_eq_mul_inv, le_div_iff₀ (zpow_pos two_pos k), Nat.cast_pow, Nat.cast_ofNat,
    ← zpow_natCast, ← zpow_add₀ two_ne_zero]

theorem value_scale_neg_lt_iff {n : ℕ} {k : ℤ} :
    (x.scale 2 (-k)).value < ((2 ^ n : ℕ) : ℚ) ↔ x.value < (2 : ℚ) ^ (n + k : ℤ) := by
  rw [← not_le, le_value_scale_neg_iff, not_le]

theorem den_scale_pos {base : ℕ} (hbase : 0 < base) (h : 0 < x.den) (power : ℤ) : 0 < (x.scale base power).den :=
  Nat.mul_pos h (Nat.pow_pos hbase)

theorem den_scale_two_pos (h : 0 < x.den) (power : ℤ) : 0 < (x.scale 2 power).den := den_scale_pos two_pos h power

theorem value_pos (hnum : 0 < x.num) (hden : 0 < x.den) : 0 < x.value :=
  div_pos (Nat.cast_pos.2 hnum) (Nat.cast_pos.2 hden)

theorem num_pos_of_value (h : 0 < x.value) : 0 < x.num := by
  refine Nat.pos_of_ne_zero fun hzero => ?_
  rw [value, hzero, Nat.cast_zero, zero_div] at h
  exact lt_irrefl _ h

theorem le_value_iff (hden : 0 < x.den) {n : ℕ} : (n : ℚ) ≤ x.value ↔ n ≤ x.num / x.den := by
  rw [value, le_div_iff₀ (Nat.cast_pos.2 hden), Nat.le_div_iff_mul_le hden]
  exact_mod_cast Iff.rfl

theorem le_round {tie : Tie} (hden : 0 < x.den) {n : ℕ} (h : (n : ℚ) ≤ x.value) : n ≤ x.round tie :=
  ((le_value_iff hden).1 h).trans (div_le_roundDiv tie x.num x.den)

theorem round_le {tie : Tie} (hden : 0 < x.den) {n : ℕ} (h : x.value < n) : x.round tie ≤ n := by
  have hfloor : x.num / x.den < n := by
    rw [← not_le, ← le_value_iff hden]
    exact not_le.2 h
  exact (roundDiv_le_succ tie x.num x.den).trans hfloor

theorem round_of_value_eq {tie : Tie} (hden : 0 < x.den) {n : ℕ} (h : x.value = n) : x.round tie = n := by
  have hnum : x.num = n * x.den := by
    rw [value, div_eq_iff (Nat.cast_pos.2 hden).ne'] at h
    exact_mod_cast h
  rw [round, roundDiv, hnum, Nat.mul_mod_left, Nat.mul_zero, if_pos hden, Nat.mul_div_cancel _ hden]

end Number.Ratio

namespace Binary64

open Number (Ratio)

theorem two_zpow_log2_le {n : ℕ} (hn : 0 < n) : (2 : ℚ) ^ (n.log2 : ℤ) ≤ n := by
  rw [zpow_natCast]
  exact_mod_cast Nat.log2_self_le hn.ne'

theorem lt_two_zpow_log2 (n : ℕ) : (n : ℚ) < 2 ^ ((n.log2 : ℤ) + 1) := by
  have hlog : n < 2 ^ (n.log2 + 1) := Nat.lt_log2_self
  exact_mod_cast hlog

/-- A positive number lies between two consecutive powers of two. -/
theorem binaryExponent_spec {x : Ratio} (hnum : 0 < x.num) (hden : 0 < x.den) :
    (2 : ℚ) ^ binaryExponent x ≤ x.value ∧ x.value < 2 ^ (binaryExponent x + 1) := by
  have hpos : (0 : ℚ) < x.den := Nat.cast_pos.2 hden
  let guess : ℤ := (x.num.log2 : ℤ) - x.den.log2
  -- the guess is the exponent, or one too much
  have hlow : (2 : ℚ) ^ (guess - 1) ≤ x.value := by
    rw [Ratio.value, le_div_iff₀ hpos]
    calc (2 : ℚ) ^ (guess - 1) * x.den ≤ 2 ^ (guess - 1) * 2 ^ ((x.den.log2 : ℤ) + 1) := by
          gcongr
          exact (lt_two_zpow_log2 x.den).le
      _ = 2 ^ (x.num.log2 : ℤ) := by rw [← zpow_add₀ two_ne_zero]; congr 1; omega
      _ ≤ x.num := two_zpow_log2_le hnum
  have hhigh : x.value < 2 ^ (guess + 1) := by
    rw [Ratio.value, div_lt_iff₀ hpos]
    calc (x.num : ℚ) < 2 ^ ((x.num.log2 : ℤ) + 1) := lt_two_zpow_log2 x.num
      _ = 2 ^ (guess + 1) * 2 ^ (x.den.log2 : ℤ) := by rw [← zpow_add₀ two_ne_zero]; congr 1; omega
      _ ≤ 2 ^ (guess + 1) * x.den := by
          gcongr
          exact two_zpow_log2_le hden
  have hguess : (x.scale 2 (-guess)).den ≤ (x.scale 2 (-guess)).num ↔ (2 : ℚ) ^ guess ≤ x.value := by
    have hscaled := Ratio.den_scale_two_pos hden (-guess)
    rw [← Nat.one_le_div_iff hscaled, ← Ratio.le_value_iff hscaled, ← pow_zero 2, Ratio.le_value_scale_neg_iff,
      Nat.cast_zero, zero_add]
  have hexponent : binaryExponent x = if (2 : ℚ) ^ guess ≤ x.value then guess else guess - 1 := by
    rw [binaryExponent]
    simp only [guess] at hguess ⊢
    simp only [hguess]
  rw [hexponent]
  split
  · next h => exact ⟨h, hhigh⟩
  · next h =>
    rw [sub_add_cancel]
    exact ⟨hlow, not_le.1 h⟩

/-- The significands and scales of the finite numbers of a width. The leading bit is set unless the scale is the least
one, so that no number has two of them. -/
structure Width.Canonical (w : Width) (significand : ℕ) (scale : ℤ) : Prop where
  bounded : significand < 2 ^ w.precision
  least : w.leastScale ≤ scale
  greatest : scale ≤ w.greatestScale
  leading : scale = w.leastScale ∨ 2 ^ (w.precision - 1) ≤ significand

namespace Width

variable {w : Width} {x : Ratio} {m : ℕ} {k : ℤ}

/-- The scale that rounding takes: the exponent less the bits behind the leading one, unless that is too little. -/
theorem scaleOf_value (hprecision : 1 ≤ w.precision) (hden : 0 < x.den) (h : w.Canonical m k) (hm : 0 < m)
    (hvalue : x.value = m * 2 ^ k) : max w.leastScale (binaryExponent x - (w.precision - 1)) = k := by
  have hnum : 0 < x.num := Ratio.num_pos_of_value (by rw [hvalue]; positivity)
  obtain ⟨hlow, hhigh⟩ := binaryExponent_spec hnum hden
  rw [hvalue] at hlow hhigh
  have hless : binaryExponent x < w.precision + k := by
    have hbound : (m : ℚ) * 2 ^ k < 2 ^ (w.precision + k : ℤ) := by
      rw [zpow_add₀ two_ne_zero, zpow_natCast]
      have hm : (m : ℚ) < 2 ^ w.precision := by exact_mod_cast h.bounded
      gcongr
    exact (zpow_lt_zpow_iff_right₀ one_lt_two).1 (hlow.trans_lt hbound)
  rcases h.leading with hleast | hleading
  · omega
  · have hmore : (w.precision - 1 : ℕ) + k < binaryExponent x + 1 := by
      have hbound : (2 : ℚ) ^ ((w.precision - 1 : ℕ) + k : ℤ) ≤ m * 2 ^ k := by
        rw [zpow_add₀ two_ne_zero, zpow_natCast]
        have hm : (2 : ℚ) ^ (w.precision - 1) ≤ m := by exact_mod_cast hleading
        gcongr
      exact (zpow_lt_zpow_iff_right₀ one_lt_two).1 (hbound.trans_lt hhigh)
    have hleast := h.least
    omega

theorem round?_of_value (hprecision : 1 ≤ w.precision) (hden : 0 < x.den) (h : w.Canonical m k)
    (hvalue : x.value = m * 2 ^ k) : w.round? x = some (m, k) := by
  rcases Nat.eq_zero_or_pos m with rfl | hm
  · have hnum : x.num = 0 := by
      rw [Ratio.value, Nat.cast_zero, zero_mul, div_eq_zero_iff] at hvalue
      rcases hvalue with hnum | hzero
      · exact_mod_cast hnum
      · exact absurd (by exact_mod_cast hzero) hden.ne'
    have hleast : k = w.leastScale := h.leading.resolve_right (not_le.2 (Nat.two_pow_pos _))
    rw [round?, if_pos hnum, hleast]
  · have hnum : x.num ≠ 0 := (Ratio.num_pos_of_value (by rw [hvalue]; positivity)).ne'
    have hround : (x.scale 2 (-k)).round .toEven = m := by
      refine Ratio.round_of_value_eq (Ratio.den_scale_two_pos hden _) ?_
      rw [Ratio.value_scale_two, hvalue, mul_assoc, ← zpow_add₀ two_ne_zero, add_neg_cancel, zpow_zero, mul_one]
    have hcarried : ¬ m = Nat.pow 2 w.precision := h.bounded.ne
    rw [round?, if_neg hnum]
    simp only [scaleOf_value hprecision hden h hm hvalue, hround, hcarried, if_false, not_lt.2 h.greatest]

theorem canonical_of_round? (hprecision : 1 ≤ w.precision) (hscales : w.leastScale ≤ w.greatestScale)
    (hden : 0 < x.den) (h : w.round? x = some (m, k)) : w.Canonical m k := by
  by_cases hnum : x.num = 0
  · rw [round?, if_pos hnum] at h
    cases h
    exact ⟨Nat.two_pow_pos _, le_rfl, hscales, .inl rfl⟩
  · obtain ⟨hlow, hhigh⟩ := binaryExponent_spec (Nat.pos_of_ne_zero hnum) hden
    rw [round?, if_neg hnum] at h
    simp only at h
    set scale := max w.leastScale (binaryExponent x - (w.precision - 1)) with hscale
    set significand := (x.scale 2 (-scale)).round .toEven with hsignificand
    have hleast : w.leastScale ≤ scale := le_max_left _ _
    have hpositive := Ratio.den_scale_two_pos hden (-scale)
    have hmost : significand ≤ 2 ^ w.precision := by
      refine Ratio.round_le hpositive ?_
      rw [Ratio.value_scale_neg_lt_iff]
      refine hhigh.trans_le (zpow_le_zpow_right₀ one_le_two ?_)
      omega
    have hleading : scale = w.leastScale ∨ 2 ^ (w.precision - 1) ≤ significand := by
      rcases (max_choice w.leastScale (binaryExponent x - (w.precision - 1))) with hmax | hmax
      · exact .inl hmax
      · refine .inr (Ratio.le_round hpositive ?_)
        rw [Ratio.le_value_scale_neg_iff]
        refine le_trans (zpow_le_zpow_right₀ one_le_two ?_) hlow
        omega
    -- rounding up to a power of two takes one bit more, and so a scale more
    by_cases hcarried : significand = Nat.pow 2 w.precision
    · simp only [hcarried, if_true] at h
      split at h
      · cases h
      · next hgreatest =>
        cases h
        exact ⟨Nat.pow_lt_pow_right one_lt_two (by omega), by omega, not_lt.1 hgreatest, .inr le_rfl⟩
    · simp only [hcarried, if_false] at h
      split at h
      · cases h
      · next hgreatest =>
        obtain ⟨rfl, rfl⟩ := Prod.mk.inj (Option.some.inj h)
        exact ⟨lt_of_le_of_ne hmost hcarried, hleast, not_lt.1 hgreatest, hleading⟩

end Width

end Binary64

end Mishap
