import Mishap.Number.Binary64

/-!
Values: the data a failure carries under a name.
-/

namespace Mishap

/-- Data of one of nine shapes. The entries of a map are kept in ascending order of their names. -/
inductive Value
  | nil
  | bool (b : Bool)
  | int (n : Int64)
  | uint (n : UInt64)
  | float (x : Binary64)
  | text (s : String)
  | list (items : List Value)
  | map (entries : List (String × Value))
  | bytes (content : List UInt8)

/-- The shape of a value, or any of them. -/
inductive Kind
  | nil | bool | int | uint | float | text | list | map | bytes | any
  deriving DecidableEq, Repr

def Kind.name : Kind → String
  | nil => "nil"
  | bool => "bool"
  | int => "int"
  | uint => "uint"
  | float => "float"
  | text => "string"
  | list => "list"
  | map => "map"
  | bytes => "bytes"
  | any => "any"

namespace Value

instance : Inhabited Value := ⟨nil⟩

def kind : Value → Kind
  | nil => .nil
  | bool _ => .bool
  | int _ => .int
  | uint _ => .uint
  | float _ => .float
  | text _ => .text
  | list _ => .list
  | map _ => .map
  | bytes _ => .bytes

def isNil : Value → Bool
  | nil => true
  | _ => false

/-- The value as a signed integer, if it is an integer that fits. -/
def asInt64? : Value → Option Int64
  | int n => some n
  | uint n => if n.toNat < 0x8000000000000000 then some (.ofNat n.toNat) else none
  | _ => none

/-- The value as an unsigned integer, if it is an integer that is not negative. -/
def asUInt64? : Value → Option UInt64
  | uint n => some n
  | int n => if 0 ≤ n.toInt then some (.ofNat n.toInt.toNat) else none
  | _ => none

/-- A whole number as a value, signed if it fits. -/
def ofInteger (n : Int) : Value := if n < 0x8000000000000000 then .int (.ofInt n) else .uint (.ofNat n.toNat)

mutual

/-- Equality as data: kinds are never mixed, numbers are compared as numbers, and so a NaN differs from itself. -/
def same : Value → Value → Bool
  | nil, nil => true
  | bool a, bool b => a == b
  | int a, int b => a == b
  | uint a, uint b => a == b
  | float a, float b => a.same b
  | text a, text b => a == b
  | list as, list bs => sameItems as bs
  | map as, map bs => sameEntries as bs
  | bytes as, bytes bs => as == bs
  | _, _ => false
termination_by structural v => v

def sameItems : List Value → List Value → Bool
  | [], [] => true
  | a :: as, b :: bs => a.same b && sameItems as bs
  | _, _ => false
termination_by structural items => items

def sameEntries : List (String × Value) → List (String × Value) → Bool
  | [], [] => true
  | (m, a) :: as, (n, b) :: bs => m == n && a.same b && sameEntries as bs
  | _, _ => false
termination_by structural entries => entries

end

end Value

end Mishap
