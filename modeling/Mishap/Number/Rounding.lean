/-!
Rounding a quotient of natural numbers to a whole number.
-/

namespace Mishap.Number

/-- Which of two equally near neighbours is taken. -/
inductive Tie
  | toEven
  | up
  deriving DecidableEq, Repr

/-- Whether the upper neighbour of a number halfway above `lower` is taken. -/
def Tie.takesUpper (tie : Tie) (lower : Nat) : Bool :=
  match tie with
  | .toEven => lower % 2 = 1
  | .up => true

/-- The whole number nearest to `num / den`, a half going as `tie` says. -/
def roundDiv (tie : Tie) (num den : Nat) : Nat :=
  let lower := num / den
  let twice := 2 * (num % den)
  if twice < den then lower
  else if den < twice then lower + 1
  else if tie.takesUpper lower then lower + 1 else lower

theorem div_le_roundDiv (tie : Tie) (num den : Nat) : num / den ≤ roundDiv tie num den := by
  unfold roundDiv
  dsimp only
  split
  · exact Nat.le_refl _
  · split
    · exact Nat.le_succ _
    · split
      · exact Nat.le_succ _
      · exact Nat.le_refl _

theorem roundDiv_le_succ (tie : Tie) (num den : Nat) : roundDiv tie num den ≤ num / den + 1 := by
  unfold roundDiv
  dsimp only
  split
  · exact Nat.le_succ _
  · split
    · exact Nat.le_refl _
    · split
      · exact Nat.le_refl _
      · exact Nat.le_succ _

/-- A non-negative rational number as a quotient, `den` being positive wherever one is built here. -/
structure Ratio where
  num : Nat
  den : Nat
  deriving DecidableEq, Repr

namespace Ratio

/-- The quotient times `base ^ power`. -/
def scale (x : Ratio) (base : Nat) (power : Int) : Ratio :=
  ⟨x.num * Nat.pow base power.toNat, x.den * Nat.pow base (-power).toNat⟩

def round (tie : Tie) (x : Ratio) : Nat := roundDiv tie x.num x.den

end Ratio

end Mishap.Number
