import Mishap.Json

/-!
Reading JSON numbers. The digits are gathered in 64 bits; what does not fit any more only counts for the power of ten.
The digits gathered are then scaled by that power in double precision, which rounds twice.
-/

namespace Mishap.Json

open Number

/-- Digits gathered so far, and the power of ten that they are to be scaled by. -/
structure Gathered where
  digits : Nat
  exponent : Int
  deriving DecidableEq, Repr

namespace Gathered

def digitOf (c : Char) : Nat := c.toNat - '0'.toNat

def fits (g : Gathered) (c : Char) : Bool := g.digits * 10 + digitOf c < UInt64.size

/-- Digits before the point. From the first that does not fit on, each counts for a power of ten. -/
def whole (g : Gathered) : List Char → Gathered
  | [] => g
  | c :: rest =>
    if g.fits c then whole ⟨g.digits * 10 + digitOf c, g.exponent⟩ rest
    else ⟨g.digits, g.exponent + (c :: rest).length⟩

/-- Digits after the point. From the first that does not fit on, they are left out. -/
def fraction (g : Gathered) : List Char → Gathered
  | [] => g
  | c :: rest =>
    if g.fits c then fraction ⟨g.digits * 10 + digitOf c, g.exponent - 1⟩ rest else g

end Gathered

/-- The greatest power of ten that double precision holds. -/
def mostPower : Nat := 308

def powerOfTen (n : Nat) : Binary64 := .ofRatio false ⟨Nat.pow 10 n, 1⟩

/-- The product of two positive finite numbers in double precision. -/
def product (x y : Binary64) : Binary64 :=
  match x.ratio?, y.ratio? with
  | some a, some b => .ofRatio false ⟨a.num * b.num, a.den * b.den⟩
  | _, _ => .nan

/-- The quotient of two positive finite numbers in double precision. -/
def quotient (x y : Binary64) : Binary64 :=
  match x.ratio?, y.ratio? with
  | some a, some b => .ofRatio false ⟨a.num * b.den, a.den * b.num⟩
  | _, _ => .nan

/-- `x` times a power of ten, a very small one in several steps; none if the result is too large. -/
def scale? (x : Binary64) (exponent : Int) : Option Binary64 :=
  if exponent < -mostPower then
    if x.isZero then some x else scale? (quotient x (powerOfTen mostPower)) (exponent + mostPower)
  else if exponent < 0 then some (quotient x (powerOfTen exponent.natAbs))
  else if exponent ≤ mostPower then
    let scaled := product x (powerOfTen exponent.toNat)
    if scaled.isInfinite then none else some scaled
  else if x.isZero then some x
  else none
termination_by (-exponent).toNat
decreasing_by
  simp only [mostPower] at *
  omega

def withSign (negative : Bool) : Binary64 → Binary64
  | .finite _ exponent fraction => .finite negative exponent fraction
  | .infinity _ => .infinity negative
  | .nan => .nan

def Gathered.toFloat? (negative : Bool) (g : Gathered) : Option Json :=
  ((scale? (.ofRatio false ⟨g.digits, 1⟩) g.exponent).map (withSign negative)).map .float

/-- The greatest exponent that is counted exactly. -/
def mostExponent : Nat := 0x7fffffff

/-- A number with an exponent. One that is beyond counting makes zero of any small number. -/
def Gathered.withExponent? (negative below : Bool) (g : Gathered) (digits : List Char) : Option Json :=
  let n := Nat.ofDigitChars 10 digits 0
  if mostExponent < n then
    if g.digits = 0 ∨ below then some (.float (.zero negative)) else none
  else Gathered.toFloat? negative ⟨g.digits, if below then g.exponent - n else g.exponent + n⟩

/-- A number without a fraction and an exponent. Minus zero is no integer, nor is what 64 bits do not hold. -/
def Gathered.toInteger? (negative : Bool) (g : Gathered) : Option Json :=
  if g.exponent ≠ 0 then g.toFloat? negative
  else if !negative then some (.integer g.digits)
  else if g.digits = 0 ∨ 0x8000000000000000 < g.digits then g.toFloat? negative
  else some (.integer (-(g.digits : Int)))

/-- The sign and the digits at the front of an exponent, which has to have some digits and nothing else. -/
def exponentDigits? (text : List Char) : Option (Bool × List Char) :=
  let (below, digits) := match text with
    | '+' :: rest => (false, rest)
    | '-' :: rest => (true, rest)
    | rest => (false, rest)
  if digits ≠ [] ∧ digits.all Char.isDigit then some (below, digits) else none

/-- What follows the digits of a number: nothing, or an exponent. -/
def readTail? (negative : Bool) (g : Gathered) (finish : Gathered → Option Json) (text : List Char) : Option Json :=
  match text with
  | [] => finish g
  | c :: rest =>
    if c = 'e' ∨ c = 'E' then
      (exponentDigits? rest).bind fun (below, digits) => g.withExponent? negative below digits
    else none

/-- A number, its sign apart. It begins with one zero or with another digit. -/
def readMagnitude? (negative : Bool) (text : List Char) : Option Json :=
  let digits := text.takeWhile Char.isDigit
  let g := Gathered.whole ⟨0, 0⟩ digits
  if digits = [] ∨ (digits.head? = some '0' ∧ digits.length ≠ 1) then none
  else
    match text.dropWhile Char.isDigit with
    | '.' :: rest =>
      let places := rest.takeWhile Char.isDigit
      if places = [] then none
      else readTail? negative (g.fraction places) (·.toFloat? negative) (rest.dropWhile Char.isDigit)
    | rest => readTail? negative g (·.toInteger? negative) rest

/-- Reads a text that is a number from its first to its last character. -/
def readNumber? (text : List Char) : Option Json :=
  match text with
  | '-' :: rest => readMagnitude? true rest
  | rest => readMagnitude? false rest

end Mishap.Json
