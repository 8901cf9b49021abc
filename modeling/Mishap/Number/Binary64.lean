import Mishap.Number.Rounding

/-!
Double-precision numbers by their meaning: a significand of at most 53 bits, scaled by a power of two. Rounding into
the format and into the narrower single-precision one is exact arithmetic on quotients of natural numbers.
-/

namespace Mishap

open Number

/-- The exponent of a finite number as it is stored. -/
abbrev Binary64.Exponent : Type := Fin 2047

/-- The number of fractions, two to the power of 52. -/
abbrev Binary64.fractionCount : Nat := 0x10000000000000

/-- The bits after the leading one, as a whole number. -/
abbrev Binary64.Fraction : Type := Fin Binary64.fractionCount

/-- A finite number is stored as its biased exponent and the fraction after the leading bit, as in the interchange
format; all NaNs are one value. -/
inductive Binary64
  | nan
  | infinity (negative : Bool)
  | finite (negative : Bool) (exponent : Binary64.Exponent) (fraction : Binary64.Fraction)
  deriving DecidableEq, Repr

namespace Binary64

/-- What the highest bit counts. -/
abbrev signWeight : Nat := 0x8000000000000000

def ofBits (bits : UInt64) : Binary64 :=
  let n := bits.toNat
  let negative := n / signWeight == 1
  let exponent := n / fractionCount % 2048
  let fraction := n % fractionCount
  if h : exponent < 2047 then
    finite negative ⟨exponent, h⟩ ⟨fraction, Nat.mod_lt _ (by decide)⟩
  else if fraction = 0 then infinity negative
  else nan

def signBit (negative : Bool) : Nat := if negative then signWeight else 0

def toBits : Binary64 → UInt64
  | nan => .ofNat (2047 * fractionCount + fractionCount / 2)
  | infinity negative => .ofNat (signBit negative + 2047 * fractionCount)
  | finite negative exponent fraction =>
    .ofNat (signBit negative + exponent.val * fractionCount + fraction.val)

/-- The whole number that, times a power of two, is the magnitude. The leading bit is implied unless the exponent is
the least one. -/
def significand (exponent : Exponent) (fraction : Fraction) : Nat :=
  if exponent.val = 0 then fraction.val else fractionCount + fraction.val

/-- The power of two that scales the significand. -/
def binaryScale (exponent : Exponent) : Int := max exponent.val 1 - 1075

def magnitude (exponent : Exponent) (fraction : Fraction) : Ratio :=
  (Ratio.mk (significand exponent fraction) 1).scale 2 (binaryScale exponent)

/-- Numeric equality: a NaN differs from itself and the two zeros are equal. -/
def same : Binary64 → Binary64 → Bool
  | nan, _ => false
  | _, nan => false
  | infinity s, infinity t => s == t
  | finite s e f, finite t e' f' =>
    e == e' && f == f' && (s == t || (e.val == 0 && f.val == 0))
  | _, _ => false

def zero (negative : Bool) : Binary64 := finite negative ⟨0, by decide⟩ ⟨0, by decide⟩

/-- A binary format by the bits of its significand and the least and greatest scale of the last of them. -/
structure Width where
  precision : Nat
  leastScale : Int
  greatestScale : Int

def double : Width := ⟨53, -1074, 971⟩

def single : Width := ⟨24, -149, 104⟩

/-- The exponent of the greatest power of two that is at most the positive number `x`. -/
def binaryExponent (x : Ratio) : Int :=
  let guess : Int := (x.num.log2 : Int) - x.den.log2
  let y := x.scale 2 (-guess)
  if y.den ≤ y.num then guess else guess - 1

/-- The significand and scale nearest to `x`, a half going to the even significand; none beyond the greatest finite
number. -/
def Width.round? (w : Width) (x : Ratio) : Option (Nat × Int) :=
  if x.num = 0 then some (0, w.leastScale)
  else
    let scale := max w.leastScale (binaryExponent x - (w.precision - 1))
    let significand := (x.scale 2 (-scale)).round .toEven
    let carried := significand = Nat.pow 2 w.precision
    let scale := if carried then scale + 1 else scale
    if w.greatestScale < scale then none
    else some (if carried then Nat.pow 2 (w.precision - 1) else significand, scale)

/-- The double-precision number with a significand of at most 53 bits and a scale that fit each other. -/
def ofParts (negative : Bool) (significand : Nat) (scale : Int) : Binary64 :=
  let exponent := if significand < fractionCount then 0 else (scale + 1075).toNat
  finite negative ⟨exponent % 2047, Nat.mod_lt _ (by decide)⟩
    ⟨significand % fractionCount, Nat.mod_lt _ (by decide)⟩

/-- The number nearest to a quotient; an infinity beyond the greatest finite one. -/
def ofRatio (negative : Bool) (x : Ratio) : Binary64 :=
  match double.round? x with
  | some (significand, scale) => ofParts negative significand scale
  | none => infinity negative

/-- The number written as a quotient, its sign apart. -/
def ratio? : Binary64 → Option Ratio
  | finite _ exponent fraction => some (magnitude exponent fraction)
  | _ => none

def isZero : Binary64 → Bool
  | finite _ exponent fraction => exponent.val == 0 && fraction.val == 0
  | _ => false

def isInfinite : Binary64 → Bool
  | infinity _ => true
  | _ => false

/-- The number rounded to single precision and widened again. -/
def toSingle : Binary64 → Binary64
  | finite negative exponent fraction =>
    match single.round? (magnitude exponent fraction) with
    | some (significand, scale) => ofRatio negative ((Ratio.mk significand 1).scale 2 scale)
    | none => infinity negative
  | x => x

end Binary64

end Mishap
