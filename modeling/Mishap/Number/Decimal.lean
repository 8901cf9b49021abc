import Mishap.Number.Binary64

/-!
Decimal text of numbers: whole numbers scaled by a power of ten, the decimals a binary number is rounded to, and the
two ways they are written. All of it is exact.
-/

namespace Mishap

open Number

/-- The number `digits * 10 ^ exponent`. -/
structure Decimal where
  digits : Nat
  exponent : Int
  deriving DecidableEq, Repr

/-- The digits of a number from its first one on, and the power of ten of the first. -/
structure Scientific where
  digits : List Char
  exponent : Int
  deriving DecidableEq, Repr

namespace Decimal

def digitChars (n : Nat) : List Char := Nat.toDigits 10 n

def digitCount (n : Nat) : Nat := (digitChars n).length

def scientific (d : Decimal) : Scientific :=
  ⟨digitChars d.digits, d.exponent + digitCount d.digits - 1⟩

/-- The exponent of the greatest power of ten that is at most the positive number `x`. -/
def decimalExponent (x : Ratio) : Int :=
  if x.den ≤ x.num then digitCount (x.num / x.den) - 1
  else -digitCount ((x.den - 1) / x.num)

/-- `x` to `places` digits after the point, a half going to the even neighbour. -/
def fixed (places : Nat) (x : Ratio) : Decimal :=
  ⟨(x.scale 10 places).round .toEven, -places⟩

/-- The positive number `x` to one digit and `places` more, a half going to the even neighbour. -/
def rounded (places : Nat) (x : Ratio) : Decimal :=
  let grid := decimalExponent x - places
  let digits := (x.scale 10 (-grid)).round .toEven
  if digits = Nat.pow 10 (places + 1) then ⟨Nat.pow 10 places, grid + 1⟩ else ⟨digits, grid⟩

/-- `x` to one digit and `places` more; zero has all its places. -/
def roundedScientific (places : Nat) (x : Ratio) : Scientific :=
  if x.num = 0 then ⟨List.replicate (places + 1) '0', 0⟩ else (rounded places x).scientific

/-! ### Shortest decimals -/

/-- The numbers that a binary number stands for when it is read back: those between half the way to the neighbour
below and half the way to the one above, the ends included for an even significand. All three are multiples of
`unit`. -/
structure Interval where
  unit : Ratio
  low : Nat
  centre : Nat
  high : Nat
  closed : Bool

/-- The neighbour below is nearer where the significand is the least one of its scale. -/
def readingInterval (exponent : Binary64.Exponent) (fraction : Binary64.Fraction) : Interval :=
  let significand := Binary64.significand exponent fraction
  let below := if fraction.val = 0 ∧ 1 < exponent.val then 1 else 2
  { unit := (Ratio.mk 1 1).scale 2 (Binary64.binaryScale exponent - 2)
    low := 4 * significand - below
    centre := 4 * significand
    high := 4 * significand + 2
    closed := significand % 2 == 0 }

/-- Whether `n` steps of a grid lie in the interval, `unit` being given in steps. -/
def Interval.holds (i : Interval) (unit : Ratio) (n : Nat) : Bool :=
  let point := n * unit.den
  if i.closed then i.low * unit.num ≤ point && point ≤ i.high * unit.num
  else i.low * unit.num < point && point < i.high * unit.num

/-- The multiple of `10 ^ grid` in the interval that is nearest to its centre. Only the two multiples next to the centre
can be the nearest. -/
def Interval.nearest? (tie : Tie) (i : Interval) (grid : Int) : Option Nat :=
  let unit := i.unit.scale 10 (-grid)
  let centre := i.centre * unit.num
  let lower := centre / unit.den
  let distance := centre % unit.den
  let takesUpper :=
    if 2 * distance < unit.den then false
    else if unit.den < 2 * distance then true
    else tie.takesUpper lower
  match i.holds unit lower, i.holds unit (lower + 1) with
  | true, true => some (if takesUpper then lower + 1 else lower)
  | true, false => some lower
  | false, true => some (lower + 1)
  | false, false => none

/-- Seventeen digits tell any two double-precision numbers apart. -/
def mostDigits : Nat := 17

/-- The decimal of fewest digits that reads back as the given positive number, and of those the nearest to it. -/
def shortest (tie : Tie) (exponent : Binary64.Exponent) (fraction : Binary64.Fraction) : Decimal :=
  let interval := readingInterval exponent fraction
  let first := decimalExponent (Binary64.magnitude exponent fraction)
  let found := (List.range mostDigits).findSome? fun (places : Nat) =>
    (interval.nearest? tie (first - places)).map fun digits =>
      if digits = Nat.pow 10 (places + 1) then Decimal.mk 1 (first + 1) else ⟨digits, first - places⟩
  found.getD (rounded mostDigits (Binary64.magnitude exponent fraction))

/-! ### Writing -/

/-- All digits, without an exponent: zeros fill the places up to the point on either side. -/
def positional (d : Decimal) : List Char :=
  let digits := digitChars d.digits
  if 0 ≤ d.exponent then digits ++ List.replicate d.exponent.toNat '0'
  else
    let places := (-d.exponent).toNat
    let padded := List.replicate (places + 1 - digits.length) '0' ++ digits
    let whole := padded.length - places
    padded.take whole ++ '.' :: padded.drop whole

/-- Drops the zeros at the end of a fraction, and the point if nothing is left after it. -/
def trimFraction (text : List Char) : List Char :=
  if '.' ∈ text then
    let kept := text.reverse.dropWhile (· == '0')
    (if kept.head? = some '.' then kept.tail else kept).reverse
  else text

/-! ### Reading -/

/-- The double-precision number nearest to a decimal. Powers of ten that are out of its range are not built. -/
def toBinary64 (negative : Bool) (d : Decimal) : Binary64 :=
  let first := d.scientific.exponent
  if d.digits = 0 ∨ first < -400 then .zero negative
  else if 400 < first then .infinity negative
  else .ofRatio negative ((Ratio.mk d.digits 1).scale 10 d.exponent)

end Decimal

/-- The digits with a point after the first one, if there are more. -/
def Scientific.mantissa (s : Scientific) : List Char :=
  match s.digits with
  | first :: second :: rest => first :: '.' :: second :: rest
  | digits => digits

/-! ### Texts of numbers -/

/-- How a number is written when the shortest digits that read back are wanted: the exponents of the first digit for
which no exponent is shown, whether whole numbers end in `.0`, the sign of an exponent that is not negative, and which
of two equally near decimals is taken. -/
structure FloatStyle where
  tie : Number.Tie
  positionalFrom : Option Int
  positionalTo : Option Int
  wholeSuffix : Bool
  exponentPlus : Bool

namespace FloatStyle

/-- Every digit is shown, never an exponent. -/
def plain : FloatStyle := ⟨.up, none, none, false, false⟩

/-- Reads as a number with a fraction; an exponent is shown below `1e-4` and from `1e16` on. -/
def explicit : FloatStyle := ⟨.up, some (-4), some 15, true, false⟩

/-- As `explicit`, with one more place below one and a sign in every exponent. -/
def json : FloatStyle := ⟨.toEven, some (-5), some 15, true, true⟩

def isPositional (style : FloatStyle) (exponent : Int) : Bool :=
  (style.positionalFrom.all (· ≤ exponent)) && (style.positionalTo.all (exponent ≤ ·))

def exponentChars (style : FloatStyle) (exponent : Int) : List Char :=
  let sign := if exponent < 0 then ['-'] else if style.exponentPlus then ['+'] else []
  'e' :: (sign ++ Nat.toDigits 10 exponent.natAbs)

def wholeChars (style : FloatStyle) (text : List Char) : List Char :=
  if style.wholeSuffix && !('.' ∈ text) then text ++ ['.', '0'] else text

/-- A magnitude in the given style. -/
def chars (style : FloatStyle) (exponent : Binary64.Exponent) (fraction : Binary64.Fraction) : List Char :=
  if exponent.val = 0 ∧ fraction.val = 0 then style.wholeChars ['0']
  else
    let d := Decimal.shortest style.tie exponent fraction
    if style.isPositional d.scientific.exponent then style.wholeChars d.positional
    else d.scientific.mantissa ++ style.exponentChars d.scientific.exponent

/-- A number in the given style; a zero keeps its sign. -/
def text (style : FloatStyle) : Binary64 → String
  | .nan => "NaN"
  | .infinity negative => if negative then "-inf" else "inf"
  | .finite negative exponent fraction =>
    String.ofList ((if negative then ['-'] else []) ++ style.chars exponent fraction)

end FloatStyle

end Mishap
