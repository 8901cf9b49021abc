import Mishap.Proofs.Fault.Places
import Mishap.Proofs.Number.Significant
import Mishap.Proofs.Verb.Lossless

/-!
The general form of numbers. A reader of numerals takes the digits on either side of the point and the exponent behind
its mark. Main statement: it finds the number rounded to the digits asked for, with an exponent or without one.
-/

namespace Mishap

open Number (Ratio)

/-! ### Reading numerals -/

namespace Numeral

/-- Whether an exponent begins. -/
def isMark (c : Char) : Bool := c == 'e' || c == 'E'

def mantissa (text : List Char) : List Char := text.takeWhile (!isMark ·)

/-- What is behind the mark of an exponent. -/
def exponent? (text : List Char) : Option (List Char) := (text.dropWhile (!isMark ·)).tail?

def whole (text : List Char) : List Char := (mantissa text).takeWhile (· != '.')

/-- What is behind the point and not in the exponent. -/
def fraction? (text : List Char) : Option (List Char) := ((mantissa text).dropWhile (· != '.')).tail?

/-- The number of some digits with a sign. -/
def signed? (text : List Char) : Option ℤ :=
  let (negative, digits) := Verb.splitSign text
  (Verb.readDigits? 10 digits).map fun (n : ℕ) => if negative then -(n : ℤ) else n

/-- The number that a numeral stands for. -/
def value? (text : List Char) : Option ℚ := do
  let digits := (fraction? text).getD []
  let front ← Verb.readDigits? 10 (whole text)
  let behind ← Text.number? 10 digits
  let power ← (exponent? text).elim (some 0) signed?
  return (front + behind / 10 ^ digits.length) * 10 ^ power

/-- Digits with a point behind the first part, if there are more. -/
def pointed (front behind : List Char) : List Char := if behind = [] then front else front ++ '.' :: behind

/-- The digits of a number in two parts, of which the front one is not empty. -/
structure Spells (n : ℕ) (front behind : List Char) : Prop where
  digits : ∀ c ∈ front ++ behind, c.isDigit
  nonempty : front ≠ []
  number : Text.number? 10 (front ++ behind) = some n

variable {n : ℕ} {front behind tail : List Char} {power : ℤ}

theorem isMark_of_isDigit {c : Char} (h : c.isDigit) : isMark c = false := by
  rw [isMark, Bool.or_eq_false_iff]
  constructor <;> refine beq_eq_false_iff_ne.2 ?_ <;> rintro rfl <;> exact absurd h (by decide)

theorem ne_point_of_isDigit {c : Char} (h : c.isDigit) : (c != '.') = true := by
  refine bne_iff_ne.2 ?_
  rintro rfl
  exact absurd h (by decide)

theorem mem_pointed {c : Char} (h : c ∈ pointed front behind) : c ∈ front ++ behind ∨ c = '.' := by
  rw [pointed] at h
  split at h
  · exact .inl (List.mem_append_left _ h)
  · simp only [List.mem_append, List.mem_cons] at h ⊢
    tauto

namespace Spells

variable (h : Spells n front behind)
include h

theorem isMark_pointed : ∀ c ∈ pointed front behind, (!isMark c) = true := by
  intro c hc
  rcases mem_pointed hc with hdigit | rfl
  · rw [isMark_of_isDigit (h.digits c hdigit)]
    rfl
  · rfl

theorem front_ne_point : ∀ c ∈ front, (c != '.') = true := fun c hc =>
  ne_point_of_isDigit (h.digits c (List.mem_append_left _ hc))

section
variable (htail : ∀ c ∈ tail.head?, isMark c)
include htail

theorem mantissa_append : mantissa (pointed front behind ++ tail) = pointed front behind := by
  rw [mantissa, List.takeWhile_append_of_pos h.isMark_pointed]
  cases tail with
  | nil => simp
  | cons c rest => simp [htail c rfl]

theorem exponent?_append : exponent? (pointed front behind ++ tail) = tail.tail? := by
  rw [exponent?, List.dropWhile_append_of_pos h.isMark_pointed]
  cases tail with
  | nil => rfl
  | cons c rest => simp [htail c rfl]

theorem whole_append : whole (pointed front behind ++ tail) = front := by
  rw [whole, h.mantissa_append htail, pointed]
  split
  · exact List.takeWhile_eq_self_iff.2 h.front_ne_point
  · rw [List.takeWhile_append_of_pos h.front_ne_point]
    simp

theorem fraction?_append : fraction? (pointed front behind ++ tail) = if behind = [] then none else some behind := by
  rw [fraction?, h.mantissa_append htail, pointed]
  split
  · rw [List.dropWhile_eq_nil_iff.2 h.front_ne_point]
    rfl
  · rw [List.dropWhile_append_of_pos h.front_ne_point]
    simp

theorem value?_append (hpower : tail.tail?.elim (some 0) signed? = some power) :
    value? (pointed front behind ++ tail) = some ((n : ℚ) / 10 ^ behind.length * 10 ^ power) := by
  have hnumber := h.number
  rw [Text.number?_append] at hnumber
  obtain ⟨m, hfront, hrest⟩ := Option.bind_eq_some_iff.1 hnumber
  obtain ⟨k, hbehind, rfl⟩ := Option.map_eq_some_iff.1 hrest
  have hdigits : (if behind = [] then none else some behind).getD [] = behind := by
    split
    · next hnil => exact hnil.symm
    · rfl
  rw [value?, h.whole_append htail, h.fraction?_append htail, h.exponent?_append htail, hdigits, Verb.readDigits?,
    if_neg h.nonempty, hfront, hbehind, hpower]
  simp only [Option.bind_eq_bind, Option.bind_some, Option.pure_def, Option.some.injEq]
  rw [Nat.pow_eq]
  push_cast
  rw [add_div, mul_div_cancel_right₀ _ (by positivity)]

end

/-! ### Zeros at the end -/

/-- Without the zeros at the end of the fraction the digits spell as much less as there are places less. -/
theorem trimmed : ∃ m k, Spells m front (behind.rdropWhile (· == '0')) ∧ n = m * 10 ^ k ∧
    behind.length = (behind.rdropWhile (· == '0')).length + k := by
  obtain ⟨k, hk⟩ : ∃ k, behind = behind.rdropWhile (· == '0') ++ List.replicate k '0' := by
    refine ⟨(behind.rtakeWhile (· == '0')).length, ?_⟩
    have hzeros : behind.rtakeWhile (· == '0') = List.replicate (behind.rtakeWhile (· == '0')).length '0' :=
      List.eq_replicate_iff.2 ⟨rfl, fun c hc => eq_of_beq (List.mem_rtakeWhile_imp (p := (· == '0')) hc)⟩
    rw [← hzeros, List.rdropWhile_append_rtakeWhile]
  have hnumber := h.number
  have hzeros : Text.number? 10 (List.replicate k '0') = some 0 := by
    have := Text.number?_zeros (by decide : 0 < 10) k []
    rwa [List.append_nil] at this
  rw [hk, ← List.append_assoc, Text.number?_append, hzeros, Nat.pow_eq] at hnumber
  obtain ⟨m, hm, hn⟩ := Option.bind_eq_some_iff.1 hnumber
  refine ⟨m, k, ⟨fun c hc => h.digits c ?_, h.nonempty, hm⟩, ?_, ?_⟩
  · rw [hk, ← List.append_assoc]
    exact List.mem_append_left _ hc
  · simpa using hn.symm
  · conv_lhs => rw [hk, List.length_append, List.length_replicate]

theorem trimFraction_pointed :
    Decimal.trimFraction (pointed front behind) = pointed front (behind.rdropWhile (· == '0')) := by
  have hbehind : ∀ c ∈ behind, c ≠ '.' := fun c hc =>
    bne_iff_ne.1 (ne_point_of_isDigit (h.digits c (List.mem_append_right _ hc)))
  rw [pointed]
  split
  · next hnil =>
    have hfront : '.' ∉ front := fun hmem => absurd (h.front_ne_point '.' hmem) (by decide)
    rw [Decimal.trimFraction, if_neg hfront, hnil]
    rfl
  · rw [Decimal.trimFraction, if_pos (by simp), List.reverse_append, List.reverse_cons, List.append_assoc,
      List.dropWhile_append, List.rdropWhile, pointed]
    cases hkept : behind.reverse.dropWhile (· == '0') with
    | nil => simp
    | cons c rest =>
      have hc : c ≠ '.' := by
        have hmem : c ∈ behind.reverse.dropWhile (· == '0') := by
          rw [hkept]
          exact List.mem_cons_self
        exact hbehind c (List.mem_reverse.1 ((List.dropWhile_suffix _).subset hmem))
      simp [hc]

/-- Digits without the zeros at the end of the fraction, and what stands for a power of ten behind them. -/
theorem value?_trimFraction (htail : ∀ c ∈ tail.head?, isMark c)
    (hpower : tail.tail?.elim (some 0) signed? = some power) :
    let text := Decimal.trimFraction (pointed front behind) ++ tail
    value? text = some ((n : ℚ) / 10 ^ behind.length * 10 ^ power) ∧ exponent? text = tail.tail? ∧
      ∀ digits ∈ fraction? text, digits ≠ [] ∧ digits.getLast? ≠ some '0' := by
  obtain ⟨m, k, hspells, rfl, hlength⟩ := h.trimmed
  intro text
  simp only [text, h.trimFraction_pointed]
  refine ⟨?_, hspells.exponent?_append htail, fun digits hdigits => ?_⟩
  · rw [hspells.value?_append htail hpower, hlength, pow_add, Nat.cast_mul, Nat.cast_pow, Nat.cast_ofNat,
      mul_div_mul_right _ _ (by positivity)]
  · rw [hspells.fraction?_append htail] at hdigits
    split at hdigits
    · cases hdigits
    · next hne =>
      obtain rfl := Option.some.inj hdigits
      refine ⟨hne, fun hlast => ?_⟩
      rw [List.getLast?_eq_some_getLast hne] at hlast
      exact List.rdropWhile_last_not (· == '0') behind hne (beq_iff_eq.2 (Option.some.inj hlast))

end Spells

end Numeral

/-! ### Writing -/

namespace Decimal

open Numeral (Spells pointed)

theorem spells_digitChars {n : ℕ} {front behind : List Char} (h : digitChars n = front ++ behind) (hfront : front ≠ []) :
    Spells n front behind where
  digits c hc := Nat.isDigit_of_mem_toDigits (by decide) (le_refl 10) (h ▸ hc)
  nonempty := hfront
  number := h ▸ Text.number?_toDigits (by decide) (by decide) n

/-- The digits of a mantissa, of which one stands before the point. -/
theorem exists_mantissa (d : Decimal) :
    ∃ front behind, d.scientific.mantissa = pointed front behind ∧ Spells d.digits front behind ∧
      behind.length = digitCount d.digits - 1 := by
  rw [scientific, digitCount, Scientific.mantissa.eq_def]
  cases hdigits : digitChars d.digits with
  | nil => exact absurd hdigits Nat.toDigits_ne_nil
  | cons first rest =>
    refine ⟨[first], rest, ?_, spells_digitChars hdigits (List.cons_ne_nil _ _), rfl⟩
    cases rest with
    | nil => rfl
    | cons second rest => rfl

/-- The digits of a decimal without an exponent: as many as it has places stand behind the point. -/
theorem exists_positional {d : Decimal} {places : ℕ} (h : d.exponent = -places) :
    ∃ front behind, d.positional = pointed front behind ∧ Spells d.digits front behind ∧ behind.length = places := by
  rw [positional, h]
  rcases Nat.eq_zero_or_pos places with rfl | hpositive
  · refine ⟨digitChars d.digits, [], ?_, spells_digitChars (List.append_nil _).symm Nat.toDigits_ne_nil, rfl⟩
    simp [pointed]
  · rw [if_neg (by omega), neg_neg, Int.toNat_natCast]
    have hsome : 0 < (digitChars d.digits).length := Nat.length_toDigits_pos
    set padded := List.replicate (places + 1 - (digitChars d.digits).length) '0' ++ digitChars d.digits with hpadded
    have hlength : places < padded.length := by
      rw [hpadded, List.length_append, List.length_replicate]
      omega
    have hbehind : (padded.drop (padded.length - places)).length = places := by
      rw [List.length_drop]
      omega
    refine ⟨padded.take (padded.length - places), padded.drop (padded.length - places), ?_, ⟨?_, ?_, ?_⟩, hbehind⟩
    · rw [pointed, if_neg fun hnil => ?_]
      rw [hnil] at hbehind
      exact hpositive.ne hbehind
    · rw [List.take_append_drop, hpadded]
      intro c hc
      rcases List.mem_append.1 hc with hzero | hdigit
      · rw [List.eq_of_mem_replicate hzero]
        rfl
      · exact Nat.isDigit_of_mem_toDigits (by decide) (le_refl 10) hdigit
    · intro hnil
      have := congrArg List.length hnil
      rw [List.length_take, List.length_nil] at this
      omega
    · rw [List.take_append_drop, hpadded, Text.number?_zeros (by decide)]
      exact Text.number?_toDigits (by decide) (by decide) d.digits

end Decimal

namespace Verb

theorem signed?_exponentChars (upper : Bool) (exponent : ℤ) :
    (∀ c ∈ (exponentChars upper exponent).head?, Numeral.isMark c) ∧
      ∃ part, (exponentChars upper exponent).tail? = some part ∧ Numeral.signed? part = some exponent := by
  refine ⟨?_, _, rfl, ?_⟩
  · intro c hc
    obtain rfl := Option.some.inj hc
    cases upper <;> rfl
  · set digits := List.replicate (2 - (Nat.toDigits 10 exponent.natAbs).length) '0' ++ Nat.toDigits 10 exponent.natAbs
    have hread : readDigits? 10 digits = some exponent.natAbs := by
      rw [readDigits?, if_neg fun hnil => Nat.toDigits_ne_nil (List.append_eq_nil_iff.1 hnil).2,
        Text.number?_zeros (by decide), Text.number?_toDigits (by decide) (by decide)]
    by_cases hnegative : exponent < 0
    · have hsplit : splitSign ('-' :: digits) = (true, digits) := rfl
      rw [if_pos hnegative, Numeral.signed?, hsplit]
      simp only [hread, Option.map_some, if_true, Option.some.injEq]
      omega
    · have hsplit : splitSign ('+' :: digits) = (false, digits) := rfl
      rw [if_neg hnegative, Numeral.signed?, hsplit]
      simp only [hread, Option.map_some, Bool.false_eq_true, if_false, Option.some.injEq]
      omega

theorem eq_ok_of_checked {α : Type} {places : ℕ} {x : Formatted α} {a : α} (h : (do checkPlaces places; x) = .ok a) :
    x = .ok a := by
  rw [checkPlaces] at h
  split at h
  · exact h
  · cases h

/-- The text of the general form: with an exponent the digits that the number is rounded to, else those of as many places
as reach the last of them. -/
theorem generalForm_eq_ok {upper : Bool} {precision count : ℕ} {x : Ratio} {text : List Char}
    (hcount : max precision 1 = count) (h : generalForm upper precision x = .ok text) :
    let s := Decimal.roundedScientific (count - 1) x
    text = if s.exponent < -4 ∨ count ≤ s.exponent then Decimal.trimFraction s.mantissa ++ exponentChars upper s.exponent
      else Decimal.trimFraction (Decimal.fixed (count - 1 - s.exponent).toNat x).positional := by
  subst hcount
  have hrest := eq_ok_of_checked h
  intro s
  split
  · next hscientific =>
    rw [if_pos hscientific] at hrest
    exact (Except.ok.inj hrest).symm
  · next hplain =>
    rw [if_neg hplain, fixedForm, checkPlaces] at hrest
    split at hrest
    · exact (Except.ok.inj hrest).symm
    · cases hrest

section
variable (places : ℕ) {x : Ratio} (hden : 0 < x.den)
include hden

/-- Behind a digit and a point the exponent is that of the first digit. -/
theorem value?_mantissa (hnum : 0 < x.num) (upper : Bool) :
    let s := (Decimal.rounded places x).scientific
    let text := Decimal.trimFraction s.mantissa ++ exponentChars upper s.exponent
    Numeral.value? text = some (Decimal.rounded places x).value ∧ (Numeral.exponent? text).isSome ∧
      ∀ digits ∈ Numeral.fraction? text, digits ≠ [] ∧ digits.getLast? ≠ some '0' := by
  intro s text
  obtain ⟨front, behind, hmantissa, hspells, hlength⟩ := (Decimal.rounded places x).exists_mantissa
  obtain ⟨hmark, part, hpart, hpower⟩ := signed?_exponentChars upper s.exponent
  have htail : (exponentChars upper s.exponent).tail?.elim (some 0) Numeral.signed? = some s.exponent := by
    rw [hpart]
    exact hpower
  obtain ⟨hvalue, hexponent, hfraction⟩ := hspells.value?_trimFraction hmark htail
  simp only [text, s, hmantissa]
  refine ⟨hvalue.trans ?_, ?_, hfraction⟩
  · have hscale : s.exponent = (Decimal.rounded places x).exponent + behind.length := by
      rw [Decimal.scientific_exponent, hlength, Decimal.digitCount_rounded hnum hden]
      push_cast
      omega
    rw [hscale, zpow_add₀ (by norm_num), zpow_natCast, Decimal.value, mul_comm (10 ^ _ : ℚ), ← mul_assoc,
      div_mul_cancel₀ _ (by positivity)]
  · rw [hexponent, hpart]
    rfl

theorem value?_positional {decimals : ℕ}
    (h : (decimals : ℤ) = places - (Decimal.roundedScientific places x).exponent) :
    let text := Decimal.trimFraction (Decimal.fixed decimals x).positional
    Numeral.value? text = some (Decimal.roundedValue places x) ∧ Numeral.exponent? text = none ∧
      ∀ digits ∈ Numeral.fraction? text, digits ≠ [] ∧ digits.getLast? ≠ some '0' := by
  intro text
  have hplaces : (Decimal.fixed decimals x).exponent = -decimals := rfl
  obtain ⟨front, behind, hpositional, hspells, hlength⟩ := Decimal.exists_positional hplaces
  have hmark : ∀ c ∈ ([] : List Char).head?, Numeral.isMark c := by rintro c ⟨⟩
  have hpower : ([] : List Char).tail?.elim (some 0) Numeral.signed? = some 0 := rfl
  obtain ⟨hvalue, hexponent, hfraction⟩ := hspells.value?_trimFraction hmark hpower
  rw [List.append_nil] at hvalue hexponent hfraction
  simp only [text, hpositional]
  refine ⟨hvalue.trans ?_, hexponent, hfraction⟩
  rw [← Decimal.value_fixed_of_exponent hden h, hlength, zpow_zero, mul_one, Decimal.value, div_eq_mul_inv,
    ← zpow_natCast, ← zpow_neg]
  rfl

end

/-- With or without an exponent, the general form is that of the number rounded to the digits asked for. It has an
exponent where the first digit is below the fourth place or the digits do not reach the point, and its fraction does not
end in a zero, nor is it empty. It is a text as long as neither form asks for more places than there are. -/
theorem generalForm_denotes (upper : Bool) (precision : ℕ) (exponent : Binary64.Exponent) (fraction : Binary64.Fraction) :
    let x := Binary64.magnitude exponent fraction
    let count := max precision 1
    ∃ y : ℚ, (∀ z, Decimal.IsRounding count x.value z ↔ z = y) ∧
      let first := Int.log 10 y
      let withExponent := first < -4 ∨ count ≤ first
      ((generalForm upper precision x).isOk ↔
          count - 1 ≤ mostPlaces ∧ (¬ withExponent → count - 1 - first ≤ mostPlaces)) ∧
        ∀ text, generalForm upper precision x = .ok text →
          Numeral.value? text = some y ∧ ((Numeral.exponent? text).isSome ↔ withExponent) ∧
            ∀ digits ∈ Numeral.fraction? text, digits ≠ [] ∧ digits.getLast? ≠ some '0' := by
  intro x count
  have hden : 0 < x.den := Binary64.magnitude_den_pos exponent fraction
  have hcount : count = count - 1 + 1 := by omega
  have hplaces : precision - 1 = count - 1 := by omega
  have hrounding := Decimal.isRounding_roundedValue hden hcount
  have hfirst : Int.log 10 (Decimal.roundedValue (count - 1) x) = (Decimal.roundedScientific (count - 1) x).exponent :=
    Decimal.log_roundedValue hden
  refine ⟨Decimal.roundedValue (count - 1) x, fun z => ⟨fun hz => hz.unique hrounding, fun hz => hz ▸ hrounding⟩, ?_⟩
  dsimp only
  rw [hfirst]
  refine ⟨?_, fun text htext => ?_⟩
  · rw [isOk_generalForm_iff, TooManyPlaces, hplaces]
    omega
  · have hform := generalForm_eq_ok (show max precision 1 = count from rfl) htext
    simp only at hform
    split at hform
    · next hscientific =>
      have hnum : x.num ≠ 0 := by
        intro hzero
        rw [Decimal.roundedScientific, if_pos hzero] at hscientific
        simp only at hscientific
        omega
      rw [Decimal.roundedScientific, if_neg hnum] at hform hscientific ⊢
      rw [Decimal.roundedValue, if_neg hnum, hform]
      obtain ⟨hvalue, hexponent, hfraction⟩ :=
        value?_mantissa (count - 1) hden (Nat.pos_of_ne_zero hnum) upper
      exact ⟨hvalue, iff_of_true hexponent hscientific, hfraction⟩
    · next hplain =>
      have hdecimals : ((count - 1 - (Decimal.roundedScientific (count - 1) x).exponent : ℤ).toNat : ℤ) =
          (count - 1 : ℕ) - (Decimal.roundedScientific (count - 1) x).exponent := by omega
      obtain ⟨hvalue, hexponent, hfraction⟩ := value?_positional (count - 1) hden hdecimals
      rw [hform]
      refine ⟨hvalue, iff_of_false ?_ hplain, hfraction⟩
      rw [hexponent]
      decide

/-- Rounding carries across either bound of the numbers without an exponent: `9.9996e-5` to four digits is written without
one, and `99999.6` to five digits with one. -/
theorem generalForm_denotes_carried :
    let small := Binary64.magnitude ⟨1009, by decide⟩ ⟨0xa369e32eca291, by decide⟩
    let great := Binary64.magnitude ⟨1039, by decide⟩ ⟨0x869f99999999a, by decide⟩
    (∃ y, Decimal.IsRounding 4 small.value y ∧ generalForm false 4 small = .ok "0.0001".toList ∧
        Numeral.value? "0.0001".toList = some y ∧ ¬ (Int.log 10 y < -4 ∨ 4 ≤ Int.log 10 y)) ∧
      ∃ y, Decimal.IsRounding 5 great.value y ∧ generalForm true 5 great = .ok "1E+05".toList ∧
        Numeral.value? "1E+05".toList = some y ∧ (Int.log 10 y < -4 ∨ 5 ≤ Int.log 10 y) := by
  have hsmall : generalForm false 4 (Binary64.magnitude ⟨1009, by decide⟩ ⟨0xa369e32eca291, by decide⟩) =
      .ok "0.0001".toList := by rfl
  have hgreat : generalForm true 5 (Binary64.magnitude ⟨1039, by decide⟩ ⟨0x869f99999999a, by decide⟩) =
      .ok "1E+05".toList := by rfl
  intro small great
  constructor
  · obtain ⟨y, hy, -, hall⟩ := generalForm_denotes false 4 ⟨1009, by decide⟩ ⟨0xa369e32eca291, by decide⟩
    obtain ⟨hvalue, hexponent, -⟩ := hall _ hsmall
    exact ⟨y, (hy y).2 rfl, hsmall, hvalue, fun hwith => absurd (hexponent.2 hwith) (by decide)⟩
  · obtain ⟨y, hy, -, hall⟩ := generalForm_denotes true 5 ⟨1039, by decide⟩ ⟨0x869f99999999a, by decide⟩
    obtain ⟨hvalue, hexponent, -⟩ := hall _ hgreat
    exact ⟨y, (hy y).2 rfl, hgreat, hvalue, hexponent.1 (by decide)⟩

end Verb

end Mishap
