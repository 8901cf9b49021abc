import Mishap.Number.Decimal
import Mishap.Text.Radix
import Mishap.Value
import Mishap.Yaml

/-!
What YAML scalars stand for. A scalar in quotes is text; one without is the first of null, a truth value, a whole
number, a number with a fraction or an exponent, and text that it can be. A tag of the standard ones says which of them
it has to be.
-/

namespace Mishap.Yaml

/-! ### Nulls and truth values -/

def isNull (text : String) : Bool := text ∈ ["~", "null", "Null", "NULL"]

def truth? (text : String) : Option Bool :=
  if text ∈ ["true", "True", "TRUE"] then some true
  else if text ∈ ["false", "False", "FALSE"] then some false
  else none

/-! ### Numbers -/

def splitSign : List Char → Bool × List Char
  | '-' :: rest => (true, rest)
  | '+' :: rest => (false, rest)
  | text => (false, text)

/-- The base of a number, by what stands before its digits. -/
def splitBase : List Char → Nat × List Char
  | '0' :: 'x' :: rest => (16, rest)
  | '0' :: 'o' :: rest => (8, rest)
  | '0' :: 'b' :: rest => (2, rest)
  | digits => (10, digits)

/-- Digits that begin with a zero too many are no number. -/
def hasLeadingZero (text : List Char) : Bool :=
  let digits := (splitSign text).2
  digits.head? == some '0' && 1 < digits.length && digits.all Char.isDigit

def integer? (text : List Char) : Option Int :=
  let (negative, magnitude) := splitSign text
  let (base, digits) := splitBase magnitude
  if digits = [] ∨ hasLeadingZero text then none
  else (Text.number? base digits).map fun n => if negative then -(n : Int) else n

/-- The exponent of a number, zero if none is written. -/
def exponent? : List Char → Option Int
  | [] => some 0
  | c :: rest =>
    let (negative, digits) := splitSign rest
    if (c = 'e' ∨ c = 'E') ∧ digits ≠ [] then
      if digits.all Char.isDigit then
        (Text.number? 10 digits).map fun n => if negative then -(n : Int) else n
      else none
    else none

/-- A decimal number without a sign. Digits on one side of the point are enough. -/
def decimal? (text : List Char) : Option Decimal :=
  let whole := text.takeWhile Char.isDigit
  let (fraction, rest) := match text.dropWhile Char.isDigit with
    | '.' :: rest => (rest.takeWhile Char.isDigit, rest.dropWhile Char.isDigit)
    | rest => ([], rest)
  if whole ++ fraction = [] then none
  else do
    let digits ← Text.number? 10 (whole ++ fraction)
    return ⟨digits, (← exponent? rest) - fraction.length⟩

/-- A number that need not be whole. Decimals beyond the greatest number are none. -/
def float? (text : List Char) : Option Binary64 :=
  let (negative, magnitude) := splitSign text
  if magnitude ∈ [".inf", ".Inf", ".INF"].map String.toList then some (.infinity negative)
  else if text ∈ [".nan", ".NaN", ".NAN"].map String.toList then some .nan
  else
    ((decimal? magnitude).map (·.toBinary64 negative)).filter fun x => x.ratio?.isSome

/-- The whole numbers of 128 bits, signed or not. -/
def isWide (n : Int) : Bool := -0x80000000000000000000000000000000 ≤ n && n < 0x100000000000000000000000000000000

/-- The whole numbers of 64 bits, signed or not. -/
def isNarrow (n : Int) : Bool := -0x8000000000000000 ≤ n && n < 0x10000000000000000

/-! ### Scalars -/

/-- A tag that has a meaning only where it is used. -/
def isLocal (tag : Option String) : Bool := tag.any fun tag => tag.toList.head? == some '!'

namespace Scalar

/-- What a scalar without quotes stands for. Whole numbers of more than 64 bits are refused up to 128 bits, and have
only an approximate value beyond. -/
def ofPlain? (text : String) : Option Value :=
  if text = "" ∨ isNull text then some .nil
  else
    match truth? text with
    | some b => some (.bool b)
    | none =>
      match (integer? text.toList).filter isWide, hasLeadingZero text.toList, float? text.toList with
      | some n, _, _ => if isNarrow n then some (.ofInteger n) else none
      | none, false, some x => some (.float x)
      | none, _, _ => some (.text text)

/-- What a scalar with a tag stands for. Other tags than the standard ones make it text. -/
def ofTagged? (tag text : String) : Option Value :=
  match tag with
  | "tag:yaml.org,2002:null" => if isNull text then some .nil else none
  | "tag:yaml.org,2002:bool" => (truth? text).map .bool
  | "tag:yaml.org,2002:int" => ((integer? text.toList).filter isNarrow).map .ofInteger
  | "tag:yaml.org,2002:float" => (float? text.toList).map .float
  | _ => some (.text text)

def toValue? (s : Scalar) : Option Value :=
  match s.tag with
  | some tag => if isLocal s.tag then none else ofTagged? tag s.text
  | none => if s.plain then ofPlain? s.text else some (.text s.text)

end Scalar

end Mishap.Yaml
