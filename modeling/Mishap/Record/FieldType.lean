import Mishap.Value

/-!
Types of record fields: which values a field of each type takes, the value it then holds, and the one it takes when none
is given.
-/

namespace Mishap

/-- The bits of an integer field. -/
inductive IntegerWidth
  | bits8 | bits16 | bits32 | bits64
  deriving DecidableEq, Repr

def IntegerWidth.bits : IntegerWidth → Nat
  | bits8 => 8
  | bits16 => 16
  | bits32 => 32
  | bits64 => 64

/-- The type of a record field; an optional one also takes nil. -/
inductive FieldType
  | bool
  | signed (width : IntegerWidth)
  | unsigned (width : IntegerWidth)
  | single
  | double
  | text
  | bytes
  | list
  | map
  | any
  | optional (inner : FieldType)
  deriving DecidableEq, Repr

namespace FieldType

/-- The kind that a field of this type announces. -/
def kind : FieldType → Kind
  | bool => .bool
  | signed _ => .int
  | unsigned _ => .uint
  | single => .float
  | double => .float
  | text => .text
  | bytes => .bytes
  | list => .list
  | map => .map
  | any => .any
  | optional inner => inner.kind

def fitsSigned (width : IntegerWidth) (n : Int64) : Bool :=
  let bound : Int := Nat.pow 2 (width.bits - 1)
  n.toInt < bound && -bound ≤ n.toInt

def fitsUnsigned (width : IntegerWidth) (n : UInt64) : Bool := n.toNat < Nat.pow 2 width.bits

/-- The value that a field of this type holds when it is given `v`, if it takes `v` at all: an integer of either kind
that fits an integer field, a number rounded to single precision, anything else as it is. -/
def assign? : FieldType → Value → Option Value
  | bool, .bool b => some (.bool b)
  | signed width, v => (v.asInt64?.filter (fitsSigned width)).map .int
  | unsigned width, v => (v.asUInt64?.filter (fitsUnsigned width)).map .uint
  | single, .float x => some (.float x.toSingle)
  | double, .float x => some (.float x)
  | text, .text s => some (.text s)
  | bytes, .bytes content => some (.bytes content)
  | list, .list items => some (.list items)
  | map, .map entries => some (.map entries)
  | any, v => some v
  | optional inner, v => if v.isNil then some .nil else inner.assign? v
  | _, _ => none

/-- The value of a field that nothing was given for. -/
def default : FieldType → Value
  | bool => .bool false
  | signed _ => .int 0
  | unsigned _ => .uint 0
  | single => .float (.zero false)
  | double => .float (.zero false)
  | text => .text ""
  | bytes => .bytes []
  | list => .list []
  | map => .map []
  | any => .nil
  | optional _ => .nil

end FieldType

end Mishap
