import Mathlib.Data.List.TakeWhile
import Mishap.Json.Number
import Mishap.Json.Printer
import Mishap.Proofs.Text.Digits

/-!
JSON numbers. Main statements: what is read as a number consists of digits, points, signs and marks of exponents, and a
whole number that 64 bits hold is read back from its digits.
-/

namespace Mishap.Json

/-! ### The characters of numbers -/

/-- Whether a character may stand in a number. -/
def isNumberChar (c : Char) : Bool := c.isDigit || ['.', 'e', 'E', '+', '-'].contains c

variable {text : List Char} {j : Json}

theorem isNumberChar_of_isDigit {c : Char} (h : c.isDigit) : isNumberChar c := by
  rw [isNumberChar, h, Bool.true_or]

theorem isNumberChar_of_exponentDigits? {read : Bool × List Char} (h : exponentDigits? text = some read) :
    ∀ c ∈ text, isNumberChar c := by
  have hall : ∀ {below : Bool} {digits : List Char},
      (if digits ≠ [] ∧ digits.all Char.isDigit then some (below, digits) else none) = some read →
        ∀ c ∈ digits, isNumberChar c := by
    intro below digits h c hc
    split at h
    · next hdigits => exact isNumberChar_of_isDigit (List.all_eq_true.1 hdigits.2 c hc)
    · cases h
  rw [exponentDigits?.eq_def] at h
  dsimp only at h
  split at h
  · exact List.forall_mem_cons.2 ⟨rfl, hall h⟩
  · exact List.forall_mem_cons.2 ⟨rfl, hall h⟩
  · exact hall h

theorem isNumberChar_of_readTail? {negative : Bool} {g : Gathered} {finish : Gathered → Option Json}
    (h : readTail? negative g finish text = some j) : ∀ c ∈ text, isNumberChar c := by
  rw [readTail?.eq_def] at h
  split at h
  · exact fun c hc => absurd hc List.not_mem_nil
  · next c rest =>
    split at h
    · next hmark =>
      obtain ⟨read, hread, -⟩ := Option.bind_eq_some_iff.1 h
      refine List.forall_mem_cons.2 ⟨?_, isNumberChar_of_exponentDigits? hread⟩
      rcases hmark with rfl | rfl <;> rfl
    · cases h

theorem isNumberChar_takeWhile : ∀ c ∈ text.takeWhile Char.isDigit, isNumberChar c := fun _ hc =>
  isNumberChar_of_isDigit (List.all_eq_true.1 List.all_takeWhile _ hc)

theorem isNumberChar_of_readMagnitude? {negative : Bool} (h : readMagnitude? negative text = some j) :
    ∀ c ∈ text, isNumberChar c := by
  have hfront : ∀ {digits rest : List Char}, (∀ c ∈ digits, isNumberChar c) → (∀ c ∈ rest, isNumberChar c) →
      ∀ c ∈ digits ++ rest, isNumberChar c := fun hdigits hrest c hc =>
    (List.mem_append.1 hc).elim (hdigits c) (hrest c)
  rw [readMagnitude?] at h
  dsimp only at h
  split at h
  · cases h
  · rw [← List.takeWhile_append_dropWhile (p := Char.isDigit) (l := text)]
    refine hfront isNumberChar_takeWhile ?_
    split at h
    · next rest hrest =>
      rw [hrest]
      split at h
      · cases h
      · refine List.forall_mem_cons.2 ⟨rfl, ?_⟩
        rw [← List.takeWhile_append_dropWhile (p := Char.isDigit) (l := rest)]
        exact hfront isNumberChar_takeWhile (isNumberChar_of_readTail? h)
    · exact isNumberChar_of_readTail? h

/-- Nothing else is read as a number. -/
theorem isNumberChar_of_readNumber? (h : readNumber? text = some j) : ∀ c ∈ text, isNumberChar c := by
  rw [readNumber?.eq_def] at h
  split at h
  · exact List.forall_mem_cons.2 ⟨rfl, isNumberChar_of_readMagnitude? h⟩
  · exact isNumberChar_of_readMagnitude? h

/-! ### Whole numbers -/

theorem le_ofDigitChars (m : Nat) (digits : List Char) : m ≤ Nat.ofDigitChars 10 digits m := by
  rw [Nat.ofDigitChars_eq_ofDigitChars_zero]
  exact Nat.le_add_right_of_le (Nat.le_mul_of_pos_left _ (Nat.pow_pos (by decide)))

theorem gathered_whole {m n : Nat} {exponent : Int} {digits : List Char} (h : Nat.ofDigitChars 10 digits m = n)
    (hfits : n < UInt64.size) : Gathered.whole ⟨m, exponent⟩ digits = ⟨n, exponent⟩ := by
  induction digits generalizing m with
  | nil => rw [Gathered.whole, ← h, Nat.ofDigitChars_nil]
  | cons c rest ih =>
    rw [Nat.ofDigitChars_cons, Nat.mul_comm] at h
    have hless : m * 10 + Gathered.digitOf c ≤ n := h ▸ le_ofDigitChars _ rest
    have hnext : Gathered.fits ⟨m, exponent⟩ c = true := decide_eq_true (Nat.lt_of_le_of_lt hless hfits)
    rw [Gathered.whole, if_pos hnext]
    exact ih h

/-- A zero stands in front of no other digits. -/
theorem length_digitChars {n : Nat} (h : (Decimal.digitChars n).head? = some '0') : (Decimal.digitChars n).length = 1 := by
  rcases Nat.eq_zero_or_pos n with rfl | hpositive
  · rfl
  · exact absurd h (Text.head?_toDigits hpositive)

/-- The digits of a number are gathered, as long as 64 bits hold them. -/
theorem readMagnitude?_digitChars {n : Nat} (hfits : n < UInt64.size) (negative : Bool) :
    readMagnitude? negative (Decimal.digitChars n) = Gathered.toInteger? negative ⟨n, 0⟩ := by
  have hdigits : ∀ c ∈ Decimal.digitChars n, Char.isDigit c = true := fun c hc =>
    Nat.isDigit_of_mem_toDigits (by decide) (by decide) hc
  have hfront : (Decimal.digitChars n).takeWhile Char.isDigit = Decimal.digitChars n :=
    List.takeWhile_eq_self_iff.2 hdigits
  have hbehind : (Decimal.digitChars n).dropWhile Char.isDigit = [] := List.dropWhile_eq_nil_iff.2 hdigits
  have hshape : ¬ (Decimal.digitChars n = [] ∨
      ((Decimal.digitChars n).head? = some '0' ∧ (Decimal.digitChars n).length ≠ 1)) :=
    not_or.2 ⟨Nat.toDigits_ne_nil, fun hzero => hzero.2 (length_digitChars hzero.1)⟩
  have hgathered : Gathered.whole ⟨0, 0⟩ (Decimal.digitChars n) = ⟨n, 0⟩ :=
    gathered_whole Nat.ofDigitChars_ten_toDigits hfits
  rw [readMagnitude?]
  dsimp only
  rw [hfront, hbehind, if_neg hshape, hgathered]
  rfl

theorem readNumber?_integerText {n : Int} (hlow : -0x8000000000000000 ≤ n) (hhigh : n < 0x10000000000000000) :
    readNumber? (integerText n).toList = some (.integer n) := by
  have hfits : n.natAbs < UInt64.size := by
    rw [UInt64.size]
    omega
  rw [integerText, String.toList_ofList]
  by_cases hnegative : n < 0
  · have hinteger : Gathered.toInteger? true ⟨n.natAbs, 0⟩ = some (.integer (-(n.natAbs : Int))) := by
      have hfew : ¬ (n.natAbs = 0 ∨ 0x8000000000000000 < n.natAbs) := by omega
      rw [Gathered.toInteger?, if_neg (by simp), if_neg (by simp), if_neg hfew]
    have hvalue : -(n.natAbs : Int) = n := by omega
    rw [if_pos hnegative, List.singleton_append, readNumber?, readMagnitude?_digitChars hfits, hinteger, hvalue]
  · have hvalue : (n.natAbs : Int) = n := by omega
    have hread : readNumber? (Decimal.digitChars n.natAbs) = readMagnitude? false (Decimal.digitChars n.natAbs) := by
      rw [readNumber?.eq_def]
      split
      · next rest heq =>
        have hdigit : Char.isDigit '-' = true :=
          Nat.isDigit_of_mem_toDigits (b := 10) (by decide) (by decide) (heq ▸ List.mem_cons_self)
        cases hdigit
      · rfl
    rw [if_neg hnegative, List.nil_append, hread, readMagnitude?_digitChars hfits, Gathered.toInteger?]
    simp only [ne_eq, not_true_eq_false, if_false, Bool.not_false, if_true, hvalue]

end Mishap.Json
