import Mishap.Proofs.Number.Nearest

/-!
Single-precision numbers. Main statements: rounding a double-precision number to single precision is narrowing and
widening again, and a single-precision number is widened without loss.
-/

namespace Mishap

open Number (Ratio)

/-- A finite number has the significand and scale of its width; all NaNs are one value. -/
inductive Binary32
  | nan
  | infinity (negative : Bool)
  | finite (negative : Bool) (significand : ℕ) (scale : ℤ) (canonical : Binary64.single.Canonical significand scale)

namespace Binary64

variable {m : ℕ} {k : ℤ} {negative : Bool}

theorem magnitude_den_pos (exponent : Exponent) (fraction : Fraction) : 0 < (magnitude exponent fraction).den :=
  Ratio.den_scale_two_pos Nat.one_pos _

theorem value_scaled (m : ℕ) (k : ℤ) : ((Ratio.mk m 1).scale 2 k).value = m * 2 ^ k := by
  rw [Ratio.value_scale_two, Ratio.value, Nat.cast_one, div_one]

/-- The parts of a number are stored so that they can be taken out again. -/
theorem exists_ofParts (negative : Bool) (h : double.Canonical m k) :
    ∃ exponent fraction, ofParts negative m k = finite negative exponent fraction ∧
      (magnitude exponent fraction).value = m * 2 ^ k := by
  obtain ⟨hbounded, hleast, hgreatest, hleading⟩ := h
  simp only [double] at hbounded hleast hgreatest hleading
  have hcount : fractionCount = 0x10000000000000 := rfl
  refine ⟨_, _, rfl, ?_⟩
  rw [magnitude, value_scaled]
  by_cases hsmall : m < fractionCount
  · have hscale : k = -1074 := by omega
    simp only [significand, binaryScale, if_pos hsmall, Nat.zero_mod, if_true, Nat.mod_eq_of_lt hsmall, hscale]
    norm_num
  · have hexponent : (k + 1075).toNat % 2047 = (k + 1075).toNat := Nat.mod_eq_of_lt (by omega)
    have hzero : (k + 1075).toNat ≠ 0 := by omega
    have hsignificand : fractionCount + m % fractionCount = m := by rw [hcount] at hsmall ⊢; omega
    have hscale : ((max (k + 1075).toNat 1 : ℕ) : ℤ) - 1075 = k := by omega
    simp only [significand, binaryScale, if_neg hsmall, hexponent, if_neg hzero, hsignificand, hscale]

theorem ofRatio_of_value {x : Ratio} (hden : 0 < x.den) (h : double.Canonical m k) (hvalue : x.value = m * 2 ^ k) :
    ofRatio negative x = ofParts negative m k := by
  rw [ofRatio, double.round?_of_value (by decide) hden h hvalue]

/-- Twice the precision leaves room for every significand: it is moved up until its leading bit is in place. -/
theorem exists_double_of_single (h : single.Canonical m k) :
    ∃ m' k', double.Canonical m' k' ∧ (m' : ℚ) * 2 ^ k' = m * 2 ^ k := by
  obtain ⟨hbounded, hleast, hgreatest, -⟩ := h
  simp only [single] at hbounded hleast hgreatest
  rcases Nat.eq_zero_or_pos m with rfl | hm
  · exact ⟨0, -1074, ⟨by decide, by decide, by decide, .inl rfl⟩, by simp⟩
  · have hlog : m.log2 < 24 := (Nat.log2_lt hm.ne').2 hbounded
    have hlow : 2 ^ m.log2 ≤ m := Nat.log2_self_le hm.ne'
    have hhigh : m < 2 ^ (m.log2 + 1) := Nat.lt_log2_self
    refine ⟨m * 2 ^ (52 - m.log2), k - (52 - m.log2 : ℕ), ⟨?_, ?_, ?_, .inr ?_⟩, ?_⟩
    · calc m * 2 ^ (52 - m.log2) < 2 ^ (m.log2 + 1) * 2 ^ (52 - m.log2) := by gcongr
        _ = 2 ^ 53 := by rw [← pow_add]; congr 1; omega
    · simp only [double]
      omega
    · simp only [double]
      omega
    · calc 2 ^ 52 = 2 ^ m.log2 * 2 ^ (52 - m.log2) := by rw [← pow_add]; congr 1; omega
        _ ≤ m * 2 ^ (52 - m.log2) := by gcongr
    · rw [zpow_sub₀ two_ne_zero, zpow_natCast, Nat.cast_mul, Nat.cast_pow, Nat.cast_ofNat, mul_assoc,
        mul_div_cancel₀ _ (pow_ne_zero _ two_ne_zero)]

end Binary64

namespace Binary32

open Binary64 (single)

/-- The number in double precision. -/
def widen : Binary32 → Binary64
  | nan => .nan
  | infinity negative => .infinity negative
  | finite negative significand scale _ => .ofRatio negative ((Ratio.mk significand 1).scale 2 scale)

def zero : Binary32 := finite false 0 (-149) ⟨by decide, by decide, by decide, .inl rfl⟩

/-- The nearest single-precision number, an infinity beyond the greatest finite one. -/
def narrow : Binary64 → Binary32
  | .nan => nan
  | .infinity negative => infinity negative
  | .finite negative exponent fraction =>
    match h : single.round? (Binary64.magnitude exponent fraction) with
    | some (significand, scale) =>
      finite negative significand scale
        (single.canonical_of_round? (by decide) (by decide) (Binary64.magnitude_den_pos exponent fraction) h)
    | none => infinity negative

theorem widen_narrow (x : Binary64) : (narrow x).widen = x.toSingle := by
  cases x with
  | nan => rfl
  | infinity negative => rfl
  | finite negative exponent fraction =>
    rw [narrow, Binary64.toSingle]
    split
    · next hround => simp only [hround, widen]
    · next hround => simp only [hround, widen]

theorem narrow_finite {negative : Bool} {exponent : Binary64.Exponent} {fraction : Binary64.Fraction} {m : ℕ} {k : ℤ}
    (h : single.Canonical m k) (hvalue : (Binary64.magnitude exponent fraction).value = m * 2 ^ k) :
    narrow (.finite negative exponent fraction) = finite negative m k h := by
  have hround := single.round?_of_value (by decide) (Binary64.magnitude_den_pos exponent fraction) h hvalue
  rw [narrow]
  split
  · next hfound =>
    rw [hround] at hfound
    cases hfound
    rfl
  · next hnone =>
    rw [hround] at hnone
    cases hnone

theorem narrow_widen (y : Binary32) : narrow y.widen = y := by
  cases y with
  | nan => rfl
  | infinity negative => rfl
  | finite negative m k h =>
    obtain ⟨m', k', hdouble, hvalue⟩ := Binary64.exists_double_of_single h
    obtain ⟨exponent, fraction, hparts, hmagnitude⟩ := Binary64.exists_ofParts negative hdouble
    have hden : 0 < ((Ratio.mk m 1).scale 2 k).den := Ratio.den_scale_two_pos Nat.one_pos k
    have hwidened : ((Ratio.mk m 1).scale 2 k).value = m' * 2 ^ k' := by rw [Binary64.value_scaled, hvalue]
    rw [widen, Binary64.ofRatio_of_value hden hdouble hwidened, hparts]
    exact narrow_finite h (hmagnitude.trans hvalue)

end Binary32

end Mishap
