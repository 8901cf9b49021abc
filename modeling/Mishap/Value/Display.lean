import Mishap.Number.Decimal
import Mishap.Text.Quoted
import Mishap.Value

/-!
The two texts of a value: the one shown inside a message, and the tagged one that tells every value from every other
apart.
-/

namespace Mishap

/-- A whole number in decimal, with a sign if it is negative. -/
def integerText (n : Int) : String :=
  String.ofList ((if n < 0 then ['-'] else []) ++ Decimal.digitChars n.natAbs)

def naturalText (n : Nat) : String := String.ofList (Decimal.digitChars n)

/-- Items between an opening and a closing text, with a comma and a space between them. -/
def enclosed (opening closing : String) (items : List String) : String :=
  opening ++ ", ".intercalate items ++ closing

namespace Value

def boolText (b : Bool) : String := if b then "true" else "false"

def bytesText (content : List UInt8) : String :=
  enclosed "[" "]" (content.map fun b => naturalText b.toNat)

mutual

/-- The value as a message shows it. -/
def display : Value → String
  | nil => "nil"
  | bool b => boolText b
  | int n => integerText n.toInt
  | uint n => naturalText n.toNat
  | float x => FloatStyle.plain.text x
  | text s => s
  | list items => enclosed "[" "]" (displayItems items)
  | map entries => enclosed "\x7b" "\x7d" (displayEntries entries)
  | bytes content => bytesText content
termination_by structural v => v

def displayItems : List Value → List String
  | [] => []
  | v :: rest => v.display :: displayItems rest
termination_by structural items => items

def displayEntries : List (String × Value) → List String
  | [] => []
  | (name, v) :: rest => (name ++ ": " ++ v.display) :: displayEntries rest
termination_by structural entries => entries

end

/-- A map as `describe` writes it. -/
def describedMap (entries : List String) : String :=
  "ParamMap(" ++ enclosed "\x7b" "\x7d" entries ++ ")"

mutual

/-- The value with its kind, its texts quoted. -/
def describe : Value → String
  | nil => "Nil"
  | bool b => "Bool(" ++ boolText b ++ ")"
  | int n => "Int(" ++ integerText n.toInt ++ ")"
  | uint n => "Uint(" ++ naturalText n.toNat ++ ")"
  | float x => "Float(" ++ FloatStyle.explicit.text x ++ ")"
  | text s => "Str(" ++ Text.quoted s ++ ")"
  | list items => "List(" ++ enclosed "[" "]" (describeItems items) ++ ")"
  | map entries => "Map(" ++ describedMap (describeEntries entries) ++ ")"
  | bytes content => "Bytes(" ++ bytesText content ++ ")"
termination_by structural v => v

def describeItems : List Value → List String
  | [] => []
  | v :: rest => v.describe :: describeItems rest
termination_by structural items => items

def describeEntries : List (String × Value) → List String
  | [] => []
  | (name, v) :: rest => (Text.quoted name ++ ": " ++ v.describe) :: describeEntries rest
termination_by structural entries => entries

end

end Value

end Mishap
