/-!
Whole numbers written in a base of at most sixteen.
-/

namespace Mishap.Text

/-- What a character counts as a digit, letters of either case following the ten figures. -/
def digitWorth? (c : Char) : Option Nat :=
  if c.isDigit then some (c.toNat - '0'.toNat)
  else if 'a' ≤ c ∧ c ≤ 'f' then some (c.toNat - 'a'.toNat + 10)
  else if 'A' ≤ c ∧ c ≤ 'F' then some (c.toNat - 'A'.toNat + 10)
  else none

/-- The number that digits of a base write, zero if there are none. -/
def number? (base : Nat) (digits : List Char) : Option Nat :=
  digits.foldlM (fun n c => ((digitWorth? c).filter (· < base)).map (n * base + ·)) 0

end Mishap.Text
