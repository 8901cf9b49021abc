import Mishap.Text.Radix

/-!
Digits that are read back. Main statement: the digits of a number in a base of at most sixteen stand for that number,
whatever zeros are put in front of them and whether the letters among them are capitals.
-/

namespace Mishap.Text

variable {base n : Nat} {digits : List Char}

/-- The number that one more digit behind those of `n` makes of it. -/
def withDigit? (base n : Nat) (c : Char) : Option Nat := ((digitWorth? c).filter (· < base)).map (n * base + ·)

theorem digitWorth?_digitChar {d : Nat} (h : d < 16) : digitWorth? (Nat.digitChar d) = some d := by
  have hall : ∀ d < 16, digitWorth? (Nat.digitChar d) = some d := by decide
  exact hall d h

theorem withDigit?_digitChar {d : Nat} (hmost : base ≤ 16) (h : d < base) (n : Nat) :
    withDigit? base n (Nat.digitChar d) = some (n * base + d) := by
  rw [withDigit?, digitWorth?_digitChar (Nat.lt_of_lt_of_le h hmost), Option.filter_some, if_pos (decide_eq_true h),
    Option.map_some]

theorem number?_eq (base : Nat) (digits : List Char) : number? base digits = digits.foldlM (withDigit? base) 0 := rfl

theorem number?_toDigits (hbase : 1 < base) (hmost : base ≤ 16) (n : Nat) :
    number? base (Nat.toDigits base n) = some n := by
  induction n using Nat.strongRecOn with
  | ind n ih =>
    rw [Nat.toDigits_eq_if hbase]
    split
    · next hless =>
      rw [number?_eq, List.foldlM_cons, withDigit?_digitChar hmost hless, Nat.zero_mul, Nat.zero_add]
      rfl
    · next hmore =>
      have hdigit := Nat.mod_lt n (Nat.lt_trans Nat.zero_lt_one hbase)
      have hfront := ih (n / base) (Nat.div_lt_self (by omega) hbase)
      rw [number?_eq] at hfront ⊢
      rw [List.foldlM_append, hfront, Option.bind_eq_bind, Option.bind_some, List.foldlM_cons,
        withDigit?_digitChar hmost hdigit, Nat.div_add_mod']
      rfl

theorem head?_toDigits {n : Nat} (h : 0 < n) : (Nat.toDigits 10 n).head? ≠ some '0' := by
  induction n using Nat.strongRecOn with
  | ind n ih =>
    rw [Nat.toDigits_eq_if (by decide)]
    split
    · next hless =>
      have hall : ∀ m < 10, 0 < m → Nat.digitChar m ≠ '0' := by decide
      exact fun hzero => hall n hless h (Option.some.inj hzero)
    · next hmore =>
      have hless := ih (n / 10) (by omega) (by omega)
      obtain ⟨first, rest, hdigits⟩ := List.exists_cons_of_ne_nil (Nat.toDigits_ne_nil (n := n / 10) (b := 10))
      rw [hdigits] at hless ⊢
      exact hless

theorem number?_zeros (hbase : 0 < base) (k : Nat) (digits : List Char) :
    number? base (List.replicate k '0' ++ digits) = number? base digits := by
  induction k with
  | zero => rfl
  | succ k ih =>
    have hzero : withDigit? base 0 '0' = some 0 := by
      rw [withDigit?, show digitWorth? '0' = some 0 from rfl, Option.filter_some, if_pos (decide_eq_true hbase),
        Option.map_some, Nat.zero_mul]
    rw [List.replicate_succ, List.cons_append, number?_eq, List.foldlM_cons, hzero]
    exact ih

/-- Digits that are read behind a number move it up by their count of places. -/
theorem foldlM_withDigit? (base m : Nat) (digits : List Char) :
    digits.foldlM (withDigit? base) m = (number? base digits).map (m * Nat.pow base digits.length + ·) := by
  rw [number?_eq]
  induction digits generalizing m with
  | nil => simp
  | cons c rest ih =>
    rw [List.foldlM_cons, List.foldlM_cons, withDigit?, withDigit?]
    cases (digitWorth? c).filter (· < base) with
    | none => rfl
    | some d =>
      simp only [Option.map_some, Option.bind_eq_bind, Option.bind_some]
      rw [ih, ih (0 * base + d), Option.map_map]
      congr 1
      funext k
      rw [Function.comp_apply, List.length_cons, Nat.pow_eq, Nat.pow_eq, Nat.pow_succ', Nat.add_mul, Nat.zero_mul,
        Nat.zero_add, ← Nat.mul_assoc, Nat.add_assoc]

theorem number?_append (base : Nat) (front behind : List Char) :
    number? base (front ++ behind) =
      (number? base front).bind fun m => (number? base behind).map (m * Nat.pow base behind.length + ·) := by
  rw [number?_eq, List.foldlM_append, number?_eq base front, Option.bind_eq_bind]
  congr 1
  funext m
  exact foldlM_withDigit? base m behind

/-- Capitals count as much as small letters. -/
theorem digitWorth?_toUpper (c : Char) : digitWorth? c.toUpper = digitWorth? c := by
  by_cases hsmall : 'a'.val ≤ c.val ∧ c.val ≤ 'z'.val
  · have hall : ∀ n < 26, digitWorth? (Char.ofNat ('a'.toNat + n)).toUpper = digitWorth? (Char.ofNat ('a'.toNat + n)) := by
      decide
    have hlow : 'a'.toNat ≤ c.toNat := hsmall.1
    have hhigh : c.toNat ≤ 'z'.toNat := hsmall.2
    have hplace : 'a'.toNat + (c.toNat - 'a'.toNat) = c.toNat := by omega
    have hletter := hall (c.toNat - 'a'.toNat) (by
      simp only [Char.reduceToNat] at hlow hhigh ⊢
      omega)
    rwa [hplace, Char.ofNat_toNat] at hletter
  · have hkept : c.toUpper = c := dif_neg hsmall
    rw [hkept]

theorem withDigit?_toUpper (base n : Nat) (c : Char) : withDigit? base n c.toUpper = withDigit? base n c := by
  rw [withDigit?, withDigit?, digitWorth?_toUpper]

theorem number?_map_toUpper (base : Nat) (digits : List Char) :
    number? base (digits.map Char.toUpper) = number? base digits := by
  rw [number?_eq, number?_eq, List.foldlM_map]
  congr 1
  funext n c
  exact withDigit?_toUpper base n c

theorem isSome_of_foldlM_withDigit? {m : Nat} (h : digits.foldlM (withDigit? base) m = some n) :
    ∀ c ∈ digits, (digitWorth? c).isSome := by
  induction digits generalizing m with
  | nil => simp
  | cons c rest ih =>
    rw [List.foldlM_cons] at h
    obtain ⟨k, hk, hrest⟩ := Option.bind_eq_some_iff.1 h
    refine List.forall_mem_cons.2 ⟨?_, ih hrest⟩
    obtain ⟨d, hd, -⟩ := Option.map_eq_some_iff.1 hk
    rw [(Option.filter_eq_some_iff.1 hd).1]
    rfl

/-- Nothing but digits is read as a number. -/
theorem isSome_digitWorth? (h : number? base digits = some n) : ∀ c ∈ digits, (digitWorth? c).isSome :=
  isSome_of_foldlM_withDigit? h

end Mishap.Text
