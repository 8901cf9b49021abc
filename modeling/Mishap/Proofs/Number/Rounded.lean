import Mathlib.Algebra.Ring.Parity
import Mathlib.Tactic.Linarith
import Mathlib.Tactic.Ring
import Mishap.Proofs.Number.Binary32

/-!
What is nearest. Main statements: rounding a quotient finds a nearest whole number, and of two the even one; rounding
into a width finds a nearest number of that width, of two the one with the even significand, and none from half a step
above the greatest one on; and so a double-precision number is narrowed to the one single-precision number it rounds to.
-/

namespace Mishap

namespace Number.Ratio

variable {x : Ratio}

theorem value_eq_div_add_mod (hden : 0 < x.den) :
    x.value = (x.num / x.den : ℕ) + ((x.num % x.den : ℕ) : ℚ) / x.den := by
  have hpos : (0 : ℚ) < x.den := Nat.cast_pos.2 hden
  have hnum : (x.num : ℚ) = x.den * (x.num / x.den : ℕ) + (x.num % x.den : ℕ) := by
    exact_mod_cast (Nat.div_add_mod x.num x.den).symm
  rw [value, hnum, add_div, mul_div_cancel_left₀ _ hpos.ne']

/-- A number is rounded by less than a half, or by a half to an even number. -/
theorem abs_sub_round (hden : 0 < x.den) :
    |x.value - x.round .toEven| < 1 / 2 ∨ |x.value - x.round .toEven| = 1 / 2 ∧ Even (x.round .toEven) := by
  have hpos : (0 : ℚ) < x.den := Nat.cast_pos.2 hden
  have hvalue := value_eq_div_add_mod hden
  set lower := x.num / x.den with hlower
  set rest := x.num % x.den with hrest
  have hnonneg : (0 : ℚ) ≤ rest / x.den := by positivity
  have hless : (rest : ℚ) / x.den < 1 := (div_lt_one hpos).2 (by exact_mod_cast Nat.mod_lt _ hden)
  rw [hvalue, round, Number.roundDiv]
  simp only [← hlower, ← hrest]
  rcases lt_trichotomy (2 * rest) x.den with hbelow | htie | habove
  · left
    have hhalf : (rest : ℚ) / x.den < 1 / 2 := by
      rw [div_lt_div_iff₀ hpos two_pos]
      exact_mod_cast (by omega : rest * 2 < 1 * x.den)
    rw [if_pos hbelow, add_sub_cancel_left, abs_of_nonneg hnonneg]
    exact hhalf
  · right
    have hhalf : (rest : ℚ) / x.den = 1 / 2 := by
      rw [div_eq_div_iff hpos.ne' two_ne_zero]
      exact_mod_cast (by omega : rest * 2 = 1 * x.den)
    rw [if_neg (by omega), if_neg (by omega), hhalf, Tie.takesUpper]
    by_cases hodd : lower % 2 = 1
    · simp only [hodd, decide_true, if_true]
      refine ⟨?_, Nat.even_iff.2 (by omega)⟩
      rw [Nat.cast_succ, add_sub_add_left_eq_sub, abs_of_neg (by norm_num)]
      norm_num
    · simp only [hodd, decide_false, Bool.false_eq_true, if_false]
      refine ⟨?_, Nat.even_iff.2 (by omega)⟩
      rw [add_sub_cancel_left, abs_of_pos (by norm_num)]
  · left
    have hhalf : (1 : ℚ) / 2 < rest / x.den := by
      rw [div_lt_div_iff₀ two_pos hpos]
      exact_mod_cast (by omega : 1 * x.den < rest * 2)
    rw [if_neg (by omega), if_pos habove, Nat.cast_succ, add_sub_add_left_eq_sub, abs_of_neg (by linarith)]
    linarith

theorem abs_sub_round_le_half (hden : 0 < x.den) : |x.value - x.round .toEven| ≤ 1 / 2 := by
  rcases abs_sub_round hden with hless | ⟨htie, -⟩
  · exact hless.le
  · exact htie.le

/-- Any other whole number is a half away at least. -/
theorem half_le_abs_sub (hden : 0 < x.den) {n : ℤ} (hne : n ≠ x.round .toEven) : 1 / 2 ≤ |x.value - n| := by
  have hapart : (1 : ℚ) ≤ |((x.round .toEven : ℤ) : ℚ) - n| := by
    exact_mod_cast Int.one_le_abs (sub_ne_zero.2 hne.symm)
  have htriangle := abs_sub_le ((x.round .toEven : ℤ) : ℚ) x.value n
  have hhalf := abs_sub_round_le_half hden
  rw [abs_sub_comm] at hhalf
  push_cast at hapart htriangle
  linarith

theorem abs_sub_round_le (hden : 0 < x.den) (n : ℤ) : |x.value - x.round .toEven| ≤ |x.value - n| := by
  by_cases hne : n = x.round .toEven
  · rw [hne, Int.cast_natCast]
  · exact (abs_sub_round_le_half hden).trans (half_le_abs_sub hden hne)

theorem even_round (hden : 0 < x.den) {n : ℤ} (hne : n ≠ x.round .toEven)
    (h : |x.value - x.round .toEven| = |x.value - n|) : Even (x.round .toEven) := by
  rcases abs_sub_round hden with hless | ⟨-, heven⟩
  · exact absurd (half_le_abs_sub hden hne) (not_le.2 (h ▸ hless))
  · exact heven

end Number.Ratio

namespace Binary64.Width

open Number (Ratio)

variable {w : Width} {x : Ratio} {m m' : ℕ} {k k' : ℤ}

/-! ### The grid that a number is rounded to -/

/-- The scale of the grid that rounding takes. -/
def gridOf (w : Width) (x : Ratio) : ℤ := max w.leastScale (binaryExponent x - (w.precision - 1))

/-- How many steps of the grid rounding finds. -/
def stepsOf (w : Width) (x : Ratio) : ℕ := (x.scale 2 (-(w.gridOf x))).round .toEven

theorem round?_of_num_ne_zero (hnum : x.num ≠ 0) :
    w.round? x =
      if w.stepsOf x = 2 ^ w.precision then
        if w.greatestScale < w.gridOf x + 1 then none else some (2 ^ (w.precision - 1), w.gridOf x + 1)
      else if w.greatestScale < w.gridOf x then none else some (w.stepsOf x, w.gridOf x) := by
  rw [round?, if_neg hnum]
  simp only [← gridOf.eq_1, ← stepsOf.eq_1, Nat.pow_eq]
  by_cases hcarried : w.stepsOf x = 2 ^ w.precision
  · simp only [hcarried, if_true]
  · simp only [hcarried, if_false]

theorem lt_of_gridOf (hnum : 0 < x.num) (hden : 0 < x.den) : x.value < 2 ^ (w.precision + w.gridOf x) := by
  refine (binaryExponent_spec hnum hden).2.trans_le (zpow_le_zpow_right₀ one_le_two ?_)
  rw [gridOf]
  omega

/-- A grid is the least one, or the number has a leading bit in it. -/
theorem gridOf_eq_or_le (hnum : 0 < x.num) (hden : 0 < x.den) :
    w.gridOf x = w.leastScale ∨ (2 : ℚ) ^ (w.precision - 1 + w.gridOf x) ≤ x.value := by
  rcases max_choice w.leastScale (binaryExponent x - (w.precision - 1)) with hmax | hmax
  · exact .inl hmax
  · refine .inr (le_trans (zpow_le_zpow_right₀ one_le_two ?_) (binaryExponent_spec hnum hden).1)
    rw [gridOf, hmax]
    omega

theorem abs_sub_mul_grid (x : Ratio) (n : ℤ) :
    |x.value - n * 2 ^ w.gridOf x| = |(x.scale 2 (-(w.gridOf x))).value - n| * 2 ^ w.gridOf x := by
  have hpos : (0 : ℚ) < 2 ^ w.gridOf x := zpow_pos two_pos _
  rw [Ratio.value_scale_two, zpow_neg, ← abs_of_pos hpos, ← abs_mul, abs_of_pos hpos, sub_mul,
    inv_mul_cancel_right₀ hpos.ne']

theorem abs_sub_steps_le (hden : 0 < x.den) (n : ℤ) :
    |x.value - w.stepsOf x * 2 ^ w.gridOf x| ≤ |x.value - n * 2 ^ w.gridOf x| := by
  have hsteps := abs_sub_mul_grid (w := w) x (w.stepsOf x)
  rw [Int.cast_natCast] at hsteps
  rw [hsteps, abs_sub_mul_grid x n]
  exact mul_le_mul_of_nonneg_right (Ratio.abs_sub_round_le (Ratio.den_scale_two_pos hden _) n)
    (zpow_pos two_pos _).le

theorem even_stepsOf (hden : 0 < x.den) {n : ℤ} (hne : n ≠ w.stepsOf x)
    (h : |x.value - w.stepsOf x * 2 ^ w.gridOf x| = |x.value - n * 2 ^ w.gridOf x|) : Even (w.stepsOf x) := by
  have hsteps := abs_sub_mul_grid (w := w) x (w.stepsOf x)
  rw [Int.cast_natCast] at hsteps
  rw [hsteps, abs_sub_mul_grid x n] at h
  exact Ratio.even_round (Ratio.den_scale_two_pos hden _) hne
    (mul_right_cancel₀ (zpow_pos two_pos _).ne' h)

/-- A number of a scale is so many steps of any finer grid. -/
theorem exists_steps {grid : ℤ} (h : grid ≤ k) (m : ℕ) : ∃ n : ℤ, (m : ℚ) * 2 ^ k = n * 2 ^ grid := by
  refine ⟨m * 2 ^ (k - grid).toNat, ?_⟩
  push_cast
  rw [mul_assoc, ← zpow_natCast, ← zpow_add₀ two_ne_zero]
  congr 2
  omega

/-- A number of a coarser grid is less than any with a leading bit in this one. -/
theorem Canonical.lt_of_scale_lt (h : w.Canonical m k) {grid : ℤ} (hgrid : k < grid) :
    (m : ℚ) * 2 ^ k < 2 ^ (w.precision - 1 + grid) := by
  have hm : (m : ℚ) < 2 ^ w.precision := by exact_mod_cast h.bounded
  calc (m : ℚ) * 2 ^ k < 2 ^ w.precision * 2 ^ k := by gcongr
    _ = 2 ^ (w.precision + k) := by rw [zpow_add₀ two_ne_zero, zpow_natCast]
    _ ≤ 2 ^ (w.precision - 1 + grid) := zpow_le_zpow_right₀ one_le_two (by omega)

/-! ### Nearest numbers of a width -/

/-- A significand and a scale of a width than which no others are nearer to a number; the significand is even where
others are as near. -/
structure Nearest (w : Width) (q : ℚ) (m : ℕ) (k : ℤ) : Prop where
  canonical : w.Canonical m k
  nearest : ∀ m' k', w.Canonical m' k' → |q - m * 2 ^ k| ≤ |q - m' * 2 ^ k'|
  even : ∀ m' k', w.Canonical m' k' → (m' : ℚ) * 2 ^ k' ≠ m * 2 ^ k → |q - m * 2 ^ k| = |q - m' * 2 ^ k'| → Even m

/-- No number of the width is nearer than the steps that are found. -/
theorem abs_sub_steps_le_canonical (hprecision : 1 ≤ w.precision) (hnum : 0 < x.num) (hden : 0 < x.den)
    (h : w.Canonical m k) :
    |x.value - w.stepsOf x * 2 ^ w.gridOf x| ≤ |x.value - m * 2 ^ k| ∧
      ((m : ℚ) * 2 ^ k ≠ w.stepsOf x * 2 ^ w.gridOf x →
        |x.value - w.stepsOf x * 2 ^ w.gridOf x| = |x.value - m * 2 ^ k| → Even (w.stepsOf x)) := by
  rcases le_or_gt (w.gridOf x) k with hgrid | hgrid
  · obtain ⟨n, hn⟩ := exists_steps hgrid m
    rw [hn]
    refine ⟨abs_sub_steps_le hden n, fun hne heq => even_stepsOf hden (fun hsame => hne ?_) heq⟩
    rw [hsame, Int.cast_natCast]
  · -- below the leading bit the least number of the grid is nearer
    have hleast := h.least
    have hleading := (gridOf_eq_or_le (w := w) hnum hden).resolve_left (by omega)
    have hless := h.lt_of_scale_lt hgrid
    obtain ⟨n, hn⟩ : ∃ n : ℤ, (2 : ℚ) ^ (w.precision - 1 + w.gridOf x) = n * 2 ^ w.gridOf x := by
      have hfiner : w.gridOf x ≤ w.precision - 1 + w.gridOf x := by omega
      obtain ⟨n, hn⟩ := exists_steps hfiner 1
      exact ⟨n, by rw [← hn, Nat.cast_one, one_mul]⟩
    have hsteps := abs_sub_steps_le (w := w) hden n
    rw [← hn, abs_of_nonneg (sub_nonneg.2 hleading)] at hsteps
    have hfar : |x.value - w.stepsOf x * 2 ^ w.gridOf x| < |x.value - m * 2 ^ k| := by
      refine hsteps.trans_lt ?_
      rw [abs_of_nonneg (by linarith)]
      linarith
    exact ⟨hfar.le, fun _ heq => absurd heq hfar.ne⟩

theorem two_pow_mul_zpow_succ (hprecision : 1 ≤ w.precision) (grid : ℤ) :
    ((2 ^ (w.precision - 1) : ℕ) : ℚ) * 2 ^ (grid + 1) = (2 ^ w.precision : ℕ) * 2 ^ grid := by
  push_cast
  rw [← zpow_natCast, ← zpow_natCast, ← zpow_add₀ two_ne_zero, ← zpow_add₀ two_ne_zero]
  congr 1
  omega

theorem nearest_of_round? (hprecision : 2 ≤ w.precision) (hscales : w.leastScale ≤ w.greatestScale) (hden : 0 < x.den)
    (h : w.round? x = some (m, k)) : w.Nearest x.value m k := by
  have hcanonical := w.canonical_of_round? (by omega) hscales hden h
  by_cases hnum : x.num = 0
  · rw [round?, if_pos hnum] at h
    obtain ⟨rfl, rfl⟩ := Prod.mk.inj (Option.some.inj h)
    refine ⟨hcanonical, fun m' k' _ => ?_, fun _ _ _ _ _ => Even.zero⟩
    have hzero : x.value = 0 := by rw [Ratio.value, hnum, Nat.cast_zero, zero_div]
    rw [hzero, Nat.cast_zero, zero_mul, sub_zero, abs_zero]
    exact abs_nonneg _
  · have hpositive := Nat.pos_of_ne_zero hnum
    rw [round?_of_num_ne_zero hnum] at h
    have hvalue : (m : ℚ) * 2 ^ k = w.stepsOf x * 2 ^ w.gridOf x ∧ (Even (w.stepsOf x) → Even m) := by
      split at h
      · next hcarried =>
        split at h
        · cases h
        · obtain ⟨rfl, rfl⟩ := Prod.mk.inj (Option.some.inj h)
          rw [hcarried]
          exact ⟨two_pow_mul_zpow_succ (by omega) _, fun _ => even_two.pow_of_ne_zero (by omega)⟩
      · split at h
        · cases h
        · obtain ⟨rfl, rfl⟩ := Prod.mk.inj (Option.some.inj h)
          exact ⟨rfl, id⟩
    refine ⟨hcanonical, fun m' k' hother => ?_, fun m' k' hother hne heq => hvalue.2 ?_⟩
    · rw [hvalue.1]
      exact (abs_sub_steps_le_canonical (by omega) hpositive hden hother).1
    · rw [hvalue.1] at hne heq
      exact (abs_sub_steps_le_canonical (by omega) hpositive hden hother).2 hne heq

theorem stepsOf_le (hnum : 0 < x.num) (hden : 0 < x.den) : w.stepsOf x ≤ 2 ^ w.precision :=
  Ratio.round_le (Ratio.den_scale_two_pos hden _) (Ratio.value_scale_neg_lt_iff.2 (lt_of_gridOf hnum hden))

/-- Rounding carries from half a step below the next power of two on. -/
theorem stepsOf_eq_iff (hprecision : 1 ≤ w.precision) (hnum : 0 < x.num) (hden : 0 < x.den) :
    w.stepsOf x = 2 ^ w.precision ↔ (2 ^ w.precision - 1 / 2) * 2 ^ w.gridOf x ≤ x.value := by
  have hpositive := Ratio.den_scale_two_pos hden (-(w.gridOf x))
  have hscaled : (2 ^ w.precision - 1 / 2) * 2 ^ w.gridOf x ≤ x.value ↔
      2 ^ w.precision - 1 / 2 ≤ (x.scale 2 (-(w.gridOf x))).value := by
    rw [Ratio.value_scale_two, zpow_neg, ← div_eq_mul_inv, le_div_iff₀ (zpow_pos two_pos _)]
  rw [hscaled]
  constructor
  · intro hsteps
    have hhalf := abs_le.1 (Ratio.abs_sub_round_le_half hpositive)
    rw [← stepsOf.eq_1, hsteps] at hhalf
    push_cast at hhalf
    linarith [hhalf.1]
  · intro hlow
    by_contra hne
    have hless : w.stepsOf x + 1 ≤ 2 ^ w.precision := lt_of_le_of_ne (stepsOf_le hnum hden) hne
    have hfar : (w.stepsOf x : ℚ) + 1 ≤ 2 ^ w.precision := by exact_mod_cast hless
    have hapart : (1 : ℚ) / 2 ≤ (x.scale 2 (-(w.gridOf x))).value - w.stepsOf x := by linarith
    rcases Ratio.abs_sub_round hpositive with hbelow | ⟨htie, heven⟩
    · exact absurd (hapart.trans (le_abs_self _)) (not_le.2 hbelow)
    · -- halfway below the power of two the lower neighbour is odd
      rw [← stepsOf.eq_1, abs_of_nonneg (by linarith)] at htie
      have hlast : w.stepsOf x + 1 = 2 ^ w.precision := by
        refine le_antisymm hless ?_
        have hcast : (2 : ℚ) ^ w.precision ≤ w.stepsOf x + 1 := by linarith
        exact_mod_cast hcast
      have hpower : Even (2 ^ w.precision) := even_two.pow_of_ne_zero (by omega)
      rw [← hlast, Nat.even_add_one] at hpower
      exact hpower heven

/-- From half a step above the greatest number on there is none to round to. -/
theorem round?_eq_none_iff (hprecision : 1 ≤ w.precision) (hscales : w.leastScale ≤ w.greatestScale)
    (hden : 0 < x.den) : w.round? x = none ↔ (2 ^ w.precision - 1 / 2) * 2 ^ w.greatestScale ≤ x.value := by
  have hpower (grid : ℤ) : (2 : ℚ) ^ (w.precision + grid) = 2 ^ w.precision * 2 ^ grid := by
    rw [zpow_add₀ two_ne_zero, zpow_natCast]
  have hlimit : (2 : ℚ) ^ (w.precision - 1 + w.greatestScale) ≤ (2 ^ w.precision - 1 / 2) * 2 ^ w.greatestScale := by
    have hdouble : (2 : ℚ) ^ w.precision = 2 ^ (w.precision - 1) * 2 := by rw [← pow_succ]; congr 1; omega
    have hone : (1 : ℚ) ≤ 2 ^ (w.precision - 1) := one_le_pow₀ one_le_two
    rw [← Nat.cast_one, ← Nat.cast_sub hprecision, zpow_add₀ two_ne_zero, zpow_natCast]
    gcongr
    linarith
  by_cases hnum : x.num = 0
  · have hzero : x.value = 0 := by rw [Ratio.value, hnum, Nat.cast_zero, zero_div]
    rw [round?, if_pos hnum, hzero]
    simp only [reduceCtorEq, false_iff, not_le]
    exact (zpow_pos two_pos _).trans_le hlimit
  · have hpositive := Nat.pos_of_ne_zero hnum
    have hnone : w.round? x = none ↔ w.greatestScale < w.gridOf x ∨
        w.greatestScale = w.gridOf x ∧ w.stepsOf x = 2 ^ w.precision := by
      rw [round?_of_num_ne_zero hnum]
      by_cases hcarried : w.stepsOf x = 2 ^ w.precision
      · simp only [hcarried, if_true, and_true, ite_eq_left_iff, reduceCtorEq, imp_false, not_not]
        omega
      · simp [hcarried]
    rw [hnone]
    rcases lt_trichotomy (w.gridOf x) w.greatestScale with hbelow | hequal | habove
    · have hsmall : x.value < (2 ^ w.precision - 1 / 2) * 2 ^ w.greatestScale := by
        refine (lt_of_gridOf (w := w) hpositive hden).trans_le (le_trans ?_ hlimit)
        exact zpow_le_zpow_right₀ one_le_two (by omega)
      refine iff_of_false ?_ (not_le.2 hsmall)
      rintro (hgrid | ⟨hgrid, -⟩) <;> omega
    · rw [← hequal, ← stepsOf_eq_iff hprecision hpositive hden]
      simp
    · have hbig : (2 ^ w.precision - 1 / 2) * 2 ^ w.greatestScale ≤ x.value := by
        refine le_trans ?_ ((gridOf_eq_or_le (w := w) hpositive hden).resolve_left (by omega))
        calc (2 ^ w.precision - 1 / 2) * 2 ^ w.greatestScale ≤ (2 : ℚ) ^ w.precision * 2 ^ w.greatestScale := by
              gcongr
              linarith
          _ = 2 ^ (w.precision + w.greatestScale) := (hpower _).symm
          _ ≤ 2 ^ (w.precision - 1 + w.gridOf x) := zpow_le_zpow_right₀ one_le_two (by omega)
      exact iff_of_true (.inl habove) hbig

theorem Canonical.eq_of_value_eq (hprecision : 1 ≤ w.precision) (h : w.Canonical m k) (h' : w.Canonical m' k')
    (hvalue : (m : ℚ) * 2 ^ k = m' * 2 ^ k') : m = m' ∧ k = k' := by
  have hden : 0 < ((Ratio.mk m 1).scale 2 k).den := Ratio.den_scale_two_pos Nat.one_pos k
  have hfound := w.round?_of_value hprecision hden h (value_scaled m k)
  rw [w.round?_of_value hprecision hden h' ((value_scaled m k).trans hvalue)] at hfound
  exact Prod.mk.inj (Option.some.inj hfound.symm)

/-- Of two numbers with even significands none is halfway to the other. -/
theorem Nearest.not_value_lt (hprecision : 1 ≤ w.precision) {q : ℚ} (h : w.Nearest q m k) (h' : w.Nearest q m' k') :
    ¬ (m : ℚ) * 2 ^ k < m' * 2 ^ k' := by
  intro hlt
  have hequal := le_antisymm (h.nearest m' k' h'.canonical) (h'.nearest m k h.canonical)
  have heven := h.even m' k' h'.canonical hlt.ne' hequal
  have heven' := h'.even m k h.canonical hlt.ne hequal.symm
  have hmiddle : q = (m * 2 ^ k + m' * 2 ^ k') / 2 := by
    rcases abs_eq_abs.1 hequal with hsame | hopposite <;> linarith
  have hpower : Even (2 ^ w.precision) := even_two.pow_of_ne_zero (by omega)
  have hbound : m + 1 < 2 ^ w.precision := by
    refine lt_of_le_of_ne h.canonical.bounded fun hlast => ?_
    rw [← hlast, Nat.even_add_one] at hpower
    exact hpower heven
  -- the next number of the same scale is between the two, or is the greater one, or is beyond it
  have hnext : w.Canonical (m + 1) k :=
    ⟨hbound, h.canonical.least, h.canonical.greatest, h.canonical.leading.imp_right (Nat.le_succ_of_le ·)⟩
  have hstep : ((m + 1 : ℕ) : ℚ) * 2 ^ k = m * 2 ^ k + 2 ^ k := by push_cast; ring
  have hpos : (0 : ℚ) < 2 ^ k := zpow_pos two_pos k
  rcases lt_trichotomy (((m + 1 : ℕ) : ℚ) * 2 ^ k) (m' * 2 ^ k') with hbetween | hgreater | hbeyond
  · refine absurd (h.nearest (m + 1) k hnext) (not_le.2 ?_)
    have hdistance : |q - m * 2 ^ k| = (m' * 2 ^ k' - m * 2 ^ k) / 2 := by
      rw [abs_of_pos] <;> linarith
    rw [hdistance, abs_lt]
    constructor <;> linarith
  · obtain ⟨rfl, -⟩ := hnext.eq_of_value_eq hprecision h'.canonical hgreater
    exact Nat.even_add_one.1 heven' heven
  · rcases le_or_gt k k' with hscale | hscale
    · obtain ⟨n, hn⟩ := exists_steps hscale m'
      rw [hn] at hlt hbeyond
      have hlow : ((m : ℤ) : ℚ) < n := by exact_mod_cast lt_of_mul_lt_mul_right hlt hpos.le
      have hhigh : (n : ℚ) < ((m + 1 : ℤ) : ℚ) := by exact_mod_cast lt_of_mul_lt_mul_right hbeyond hpos.le
      have hlow := Int.cast_lt.1 hlow
      have hhigh := Int.cast_lt.1 hhigh
      omega
    · have hleading : ((2 ^ (w.precision - 1) : ℕ) : ℚ) ≤ m := by
        have hleast := h'.canonical.least
        exact_mod_cast h.canonical.leading.resolve_left (by omega)
      have hless := h'.canonical.lt_of_scale_lt hscale
      have hmore : (2 : ℚ) ^ (w.precision - 1 + k) ≤ m * 2 ^ k := by
        rw [← Nat.cast_one, ← Nat.cast_sub hprecision, zpow_add₀ two_ne_zero, zpow_natCast]
        gcongr
        exact_mod_cast hleading
      linarith

/-- A number has one nearest number of a width. -/
theorem Nearest.unique (hprecision : 1 ≤ w.precision) {q : ℚ} (h : w.Nearest q m k) (h' : w.Nearest q m' k') :
    m = m' ∧ k = k' := by
  refine h.canonical.eq_of_value_eq hprecision h'.canonical (le_antisymm ?_ ?_)
  · exact not_lt.1 (h'.not_value_lt hprecision h)
  · exact not_lt.1 (h.not_value_lt hprecision h')

end Binary64.Width

namespace Binary32

open Binary64 (single magnitude)

/-- From here on a magnitude is beyond the single-precision numbers: half a step above the greatest of them. -/
def limit : ℚ := (2 ^ 24 - 1 / 2) * 2 ^ 104

/-- What a number is in single precision: the nearest number of its sign, or an infinity beyond the greatest one. -/
inductive RoundedFrom : Binary64 → Binary32 → Prop
  | nan : RoundedFrom .nan .nan
  | infinity (negative : Bool) : RoundedFrom (.infinity negative) (.infinity negative)
  | nearest {negative : Bool} {exponent : Binary64.Exponent} {fraction : Binary64.Fraction} {m : ℕ} {k : ℤ}
      (canonical : single.Canonical m k) (within : (magnitude exponent fraction).value < limit)
      (nearest : single.Nearest (magnitude exponent fraction).value m k) :
      RoundedFrom (.finite negative exponent fraction) (.finite negative m k canonical)
  | beyond {negative : Bool} {exponent : Binary64.Exponent} {fraction : Binary64.Fraction}
      (beyond : limit ≤ (magnitude exponent fraction).value) :
      RoundedFrom (.finite negative exponent fraction) (.infinity negative)

theorem round?_magnitude_eq_none_iff {exponent : Binary64.Exponent} {fraction : Binary64.Fraction} :
    single.round? (magnitude exponent fraction) = none ↔ limit ≤ (magnitude exponent fraction).value :=
  single.round?_eq_none_iff (by decide) (by decide) (Binary64.magnitude_den_pos exponent fraction)

theorem roundedFrom_narrow (x : Binary64) : RoundedFrom x (narrow x) := by
  cases x with
  | nan => exact .nan
  | infinity negative => exact .infinity negative
  | finite negative exponent fraction =>
    rw [narrow]
    split
    · next m k hround =>
      have hwithin : ¬ limit ≤ (magnitude exponent fraction).value := by
        rw [← round?_magnitude_eq_none_iff, hround]
        exact Option.some_ne_none _
      refine .nearest _ (not_le.1 hwithin) ?_
      exact single.nearest_of_round? (by decide) (by decide) (Binary64.magnitude_den_pos exponent fraction) hround
    · next hround => exact .beyond (round?_magnitude_eq_none_iff.1 hround)

/-- A number is rounded to one single-precision number. -/
theorem RoundedFrom.unique {x : Binary64} {y z : Binary32} (hy : RoundedFrom x y) (hz : RoundedFrom x z) : y = z := by
  cases hy with
  | nan => cases hz; rfl
  | infinity negative => cases hz; rfl
  | nearest canonical within nearest =>
    cases hz with
    | nearest canonical' _ nearest' =>
      obtain ⟨rfl, rfl⟩ := nearest.unique (by decide) nearest'
      rfl
    | beyond beyond => exact absurd within (not_lt.2 beyond)
  | beyond beyond =>
    cases hz with
    | nearest _ within _ => exact absurd within (not_lt.2 beyond)
    | beyond _ => rfl

theorem roundedFrom_iff {x : Binary64} {y : Binary32} : RoundedFrom x y ↔ y = narrow x :=
  ⟨fun h => h.unique (roundedFrom_narrow x), fun h => h ▸ roundedFrom_narrow x⟩

end Binary32

end Mishap
