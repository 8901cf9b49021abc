import Mishap.Text.Utf8
import Mishap.Value.Display

/-!
Verbs: how a field is formatted. A verb is read from `[flags][width][.precision]letter` and lays a value out as a head
(sign and radix) and a body, which are then filled up to the width. A verb that does not apply to a value shows as
`%!verb(kind=value)`.
-/

namespace Mishap

/-- The letter of a verb; `upper` chooses capitals. -/
inductive VerbLetter
  | default
  | string
  | quote
  | decimal
  | binary
  | octal
  | hexadecimal (upper : Bool)
  | exponent (upper : Bool)
  | fixed (upper : Bool)
  | general (upper : Bool)
  | truth
  deriving DecidableEq, Repr

namespace VerbLetter

def toChar : VerbLetter → Char
  | default => 'v'
  | string => 's'
  | quote => 'q'
  | decimal => 'd'
  | binary => 'b'
  | octal => 'o'
  | hexadecimal upper => if upper then 'X' else 'x'
  | exponent upper => if upper then 'E' else 'e'
  | fixed upper => if upper then 'F' else 'f'
  | general upper => if upper then 'G' else 'g'
  | truth => 't'

/-- Every letter of a verb. -/
def all : List VerbLetter :=
  [default, string, quote, decimal, binary, octal, hexadecimal false, hexadecimal true, exponent false, exponent true,
    fixed false, fixed true, general false, general true, truth]

def ofChar? (c : Char) : Option VerbLetter := all.find? fun letter => letter.toChar == c

end VerbLetter

/-- The flags of a verb: a sign for all numbers, filling on the right, prefixes and quotes, filling with zeros, and a
blank where a sign would stand. -/
structure VerbFlags where
  plus : Bool
  minus : Bool
  sharp : Bool
  zero : Bool
  space : Bool
  deriving DecidableEq, Repr

/-- A format verb. -/
structure Verb where
  flags : VerbFlags
  width : Option Nat
  precision : Option Nat
  letter : VerbLetter
  deriving DecidableEq, Repr

namespace VerbFlags

def none : VerbFlags := ⟨false, false, false, false, false⟩

/-- The flags with the one that `c` stands for set, if it stands for one. -/
def set? (flags : VerbFlags) (c : Char) : Option VerbFlags :=
  match c with
  | '+' => some { flags with plus := true }
  | '-' => some { flags with minus := true }
  | '#' => some { flags with sharp := true }
  | '0' => some { flags with zero := true }
  | ' ' => some { flags with space := true }
  | _ => Option.none

/-- The flags at the front of a text, and what follows them. -/
def read (flags : VerbFlags) : List Char → VerbFlags × List Char
  | [] => (flags, [])
  | c :: rest =>
    match flags.set? c with
    | some flags => flags.read rest
    | Option.none => (flags, c :: rest)

end VerbFlags

namespace Verb

/-! ### Reading -/

/-- The largest width or precision. -/
def mostPadding : Nat := 1000000

/-- Numbers are counted in 64 bits. -/
def mostCounted : Nat := 0xffffffffffffffff

/-- A number with one more digit behind it; one that is too great to be counted stays at the greatest. -/
def appendDigit (n : Nat) (c : Char) : Nat :=
  min mostCounted (min mostCounted (n * 10) + (c.toNat - '0'.toNat))

/-- The number at the front of a text, if there is one, and what follows it. -/
def readNumber (text : List Char) : Option Nat × List Char :=
  match text.takeWhile Char.isDigit with
  | [] => (none, text)
  | digits => (some (digits.foldl appendDigit 0), text.dropWhile Char.isDigit)

/-- A point and the number after it, which is zero if it is missing. -/
def readPrecision (text : List Char) : Option Nat × List Char :=
  match text with
  | '.' :: rest =>
    let (number, rest) := readNumber rest
    (some (number.getD 0), rest)
  | text => (none, text)

def ofChars? (text : List Char) : Option Verb :=
  let (flags, rest) := VerbFlags.none.read text
  let (width, rest) := readNumber rest
  let (precision, rest) := readPrecision rest
  if width.getD 0 ≤ mostPadding ∧ precision.getD 0 ≤ mostPadding then
    match rest with
    | [c] => (VerbLetter.ofChar? c).map fun letter => ⟨flags, width, precision, letter⟩
    | _ => none
  else none

def ofText? (text : String) : Option Verb := ofChars? text.toList

/-! ### Laying out -/

/-- A formatted value before it is filled up to a width: the sign and radix, what follows them, and whether zeros may
be put between the two. -/
structure Layout where
  head : List Char
  body : List Char
  zeroFill : Bool
  deriving DecidableEq, Repr

/-- The text of a layout in at least the width of the verb, counted in characters. -/
def fill (verb : Verb) (layout : Layout) : List Char :=
  let missing := verb.width.getD 0 - (layout.head.length + layout.body.length)
  if verb.flags.minus then layout.head ++ layout.body ++ List.replicate missing ' '
  else if verb.flags.zero && layout.zeroFill then layout.head ++ List.replicate missing '0' ++ layout.body
  else List.replicate missing ' ' ++ layout.head ++ layout.body

def plainLayout (body : List Char) : Layout := ⟨[], body, false⟩

def sign (verb : Verb) (negative : Bool) : List Char :=
  if negative then ['-'] else if verb.flags.plus then ['+'] else if verb.flags.space then [' '] else []

/-- The number of digits a formatted number may be asked for. -/
def mostPlaces : Nat := 65535

/-- A number was to be formatted with more digits than `mostPlaces`. -/
structure PlacesExceeded where
  places : Nat
  deriving DecidableEq, Repr

def PlacesExceeded.message (_ : PlacesExceeded) : String := "Formatting argument out of range"

/-- A text, or the only way in which formatting can fail. -/
abbrev Formatted (α : Type) := Except PlacesExceeded α

def checkPlaces (places : Nat) : Formatted Unit :=
  if places ≤ mostPlaces then .ok () else .error ⟨places⟩

/-! #### Integers and bytes -/

/-- The base of a letter for integers and its digits as capitals. -/
def radix? : VerbLetter → Option (Nat × Bool)
  | .decimal => some (10, false)
  | .binary => some (2, false)
  | .octal => some (8, false)
  | .hexadecimal upper => some (16, upper)
  | _ => none

def digitsIn (base : Nat) (upper : Bool) (n : Nat) : List Char :=
  let digits := Nat.toDigits base n
  if upper then digits.map Char.toUpper else digits

def radixPrefix (letter : VerbLetter) : List Char :=
  match letter with
  | .binary => ['0', 'b']
  | .octal => ['0']
  | .hexadecimal upper => ['0', if upper then 'X' else 'x']
  | _ => []

/-- A precision asks for that many digits at least, and then no zeros are put in for the width. -/
def integerLayout (verb : Verb) (letter : VerbLetter) (base : Nat) (upper : Bool) (n : Int) : Layout :=
  let digits := digitsIn base upper n.natAbs
  { head := verb.sign (n < 0) ++ if verb.flags.sharp then radixPrefix letter else []
    body := List.replicate (verb.precision.getD 0 - digits.length) '0' ++ digits
    zeroFill := verb.precision.isNone }

/-- Two digits for every byte. -/
def hexBytes (upper : Bool) (content : List UInt8) : List Char :=
  content.flatMap fun b => digitsIn 16 upper (b.toNat / 16) ++ digitsIn 16 upper (b.toNat % 16)

def hexLayout (verb : Verb) (upper : Bool) (content : List UInt8) : Layout :=
  plainLayout
    ((if verb.flags.sharp then radixPrefix (.hexadecimal upper) else []) ++ hexBytes upper content)

/-! #### Text -/

/-- A precision keeps that many characters. -/
def truncate (verb : Verb) (text : List Char) : List Char :=
  match verb.precision with
  | some precision => text.take precision
  | none => text

def textLayout (verb : Verb) (s : String) : Layout := plainLayout (verb.truncate s.toList)

def quoteLayout (verb : Verb) (s : String) : Layout :=
  plainLayout (Text.quoted (String.ofList (verb.truncate s.toList))).toList

/-! #### Floating-point numbers -/

/-- The exponent has a sign and two digits at least. -/
def exponentChars (upper : Bool) (exponent : Int) : List Char :=
  let digits := Nat.toDigits 10 exponent.natAbs
  (if upper then 'E' else 'e') :: (if exponent < 0 then '-' else '+') ::
    (List.replicate (2 - digits.length) '0' ++ digits)

def exponentForm (upper : Bool) (places : Nat) (x : Number.Ratio) : Formatted (List Char) := do
  checkPlaces places
  let s := Decimal.roundedScientific places x
  return s.mantissa ++ exponentChars upper s.exponent

def fixedForm (places : Nat) (x : Number.Ratio) : Formatted (List Char) := do
  checkPlaces places
  return (Decimal.fixed places x).positional

/-- So many significant digits, without zeros at the end of the fraction; with an exponent if it is below -4 or there
are not enough digits to reach the point. -/
def generalForm (upper : Bool) (precision : Nat) (x : Number.Ratio) : Formatted (List Char) := do
  let digits := max precision 1
  checkPlaces (digits - 1)
  let s := Decimal.roundedScientific (digits - 1) x
  if s.exponent < -4 ∨ digits ≤ s.exponent then
    return Decimal.trimFraction s.mantissa ++ exponentChars upper s.exponent
  else
    return Decimal.trimFraction (← fixedForm (digits - 1 - s.exponent).toNat x)

/-- The fewest digits that read back; with an exponent if it is below -4 or has reached `limit`. -/
def shortestForm (upper : Bool) (limit : Int) (exponent : Binary64.Exponent) (fraction : Binary64.Fraction) : List Char :=
  let s := (Decimal.shortest .up exponent fraction).scientific
  if (exponent.val ≠ 0 ∨ fraction.val ≠ 0) ∧ (s.exponent < -4 ∨ limit ≤ s.exponent) then
    s.mantissa ++ exponentChars upper s.exponent
  else FloatStyle.plain.chars exponent fraction

/-- The exponent from which the shortest digits are written with an exponent: plain decimals go further where no letter
asks for the general form. -/
def shortestLimit (verb : Verb) : Int := if verb.letter = .default then 21 else 6

/-- The digits after the point where no precision is given. -/
def defaultPlaces : Nat := 6

/-- The magnitude of a finite number by a letter for numbers. -/
def magnitudeChars (verb : Verb) (letter : VerbLetter) (exponent : Binary64.Exponent) (fraction : Binary64.Fraction) :
    Formatted (List Char) :=
  let x := Binary64.magnitude exponent fraction
  match letter, verb.precision with
  | .fixed _, precision => fixedForm (precision.getD defaultPlaces) x
  | .exponent upper, precision => exponentForm upper (precision.getD defaultPlaces) x
  | .general upper, some precision => generalForm upper precision x
  | .general upper, none => return shortestForm upper verb.shortestLimit exponent fraction
  | _, _ => return shortestForm false verb.shortestLimit exponent fraction

def floatLayout (verb : Verb) (letter : VerbLetter) : Binary64 → Formatted Layout
  | .nan => return plainLayout "NaN".toList
  | .infinity negative => return plainLayout (verb.sign negative ++ "Inf".toList)
  | .finite negative exponent fraction => do
    return ⟨verb.sign negative, ← verb.magnitudeChars letter exponent fraction, true⟩

/-! ### Formatting -/

/-- The letter that the default one stands for with a value. -/
def letterFor (verb : Verb) (v : Value) : VerbLetter :=
  match verb.letter with
  | .default =>
    match v with
    | .int _ | .uint _ => .decimal
    | .float _ => .general false
    | .bool _ => .truth
    | .text _ => if verb.flags.sharp then .quote else .string
    | _ => .string
  | letter => letter

/-- The layout of a value; none if the verb does not apply to it. -/
def layout? (verb : Verb) (v : Value) : Option (Formatted Layout) :=
  let letter := verb.letterFor v
  match v with
  | .int n => (radix? letter).map fun (base, upper) => return verb.integerLayout letter base upper n.toInt
  | .uint n => (radix? letter).map fun (base, upper) => return verb.integerLayout letter base upper n.toNat
  | .float x =>
    match letter with
    | .exponent _ | .fixed _ | .general _ => some (verb.floatLayout letter x)
    | _ => none
  | .bool b =>
    match letter with
    | .truth => some (return plainLayout (Value.boolText b).toList)
    | _ => none
  | .text s =>
    match letter with
    | .hexadecimal upper => some (return verb.hexLayout upper (Text.utf8Bytes s))
    | .string => some (return verb.textLayout s)
    | .quote => some (return verb.quoteLayout s)
    | _ => none
  | .bytes content =>
    match letter with
    | .hexadecimal upper => some (return verb.hexLayout upper content)
    | .string => some (return verb.textLayout (Text.ofBytesLossy content))
    | .quote => some (return verb.quoteLayout (Text.ofBytesLossy content))
    | _ => none
  | .nil | .list _ | .map _ =>
    match letter with
    | .string => some (return verb.textLayout v.display)
    | _ => none

/-- The formatted value; none if the verb does not apply to it. -/
def format? (verb : Verb) (v : Value) : Option (Formatted String) :=
  (verb.layout? v).map fun layout => return String.ofList (verb.fill (← layout))

/-- What is shown for a verb that is none, or does not apply to the value. -/
def misapplied (verb : String) (v : Value) : String :=
  "%!" ++ verb ++ "(" ++ v.kind.name ++ "=" ++ v.display ++ ")"

end Verb

/-- The value formatted by the verb that `verb` reads as. -/
def formatValue (v : Value) (verb : String) : Verb.Formatted String :=
  ((Verb.ofText? verb).bind (·.format? v)).getD (.ok (Verb.misapplied verb v))

end Mishap
