import Mishap.Record.FieldType

/-!
Unsigned integers as bytes of a fixed number, in either order.
-/

namespace Mishap

inductive ByteOrder
  | little
  | big
  deriving DecidableEq, Repr

/-- How an integer is laid out in bytes. -/
structure IntegerFormat where
  width : IntegerWidth
  order : ByteOrder
  deriving DecidableEq, Repr

namespace IntegerFormat

/-- The number of bytes. -/
def size (format : IntegerFormat) : Nat := format.width.bits / 8

/-- The `size` lowest bytes of `n`, the lowest first. -/
def littleBytes : Nat → Nat → List UInt8
  | 0, _ => []
  | size + 1, n => .ofNat (n % 256) :: littleBytes size (n / 256)

def ofLittleBytes : List UInt8 → Nat
  | [] => 0
  | b :: rest => b.toNat + 256 * ofLittleBytes rest

def encode (format : IntegerFormat) (n : Nat) : List UInt8 :=
  match format.order with
  | .little => littleBytes format.size n
  | .big => (littleBytes format.size n).reverse

def decode (format : IntegerFormat) (bytes : List UInt8) : Nat :=
  match format.order with
  | .little => ofLittleBytes bytes
  | .big => ofLittleBytes bytes.reverse

theorem length_littleBytes (size n : Nat) : (littleBytes size n).length = size := by
  induction size generalizing n with
  | zero => rfl
  | succ size ih => simp [littleBytes, ih]

theorem ofLittleBytes_littleBytes (size n : Nat) :
    ofLittleBytes (littleBytes size n) = n % Nat.pow 256 size := by
  induction size generalizing n with
  | zero => exact (Nat.mod_one n).symm
  | succ size ih =>
    have h : Nat.pow 256 (size + 1) = 256 * Nat.pow 256 size := Nat.mul_comm ..
    rw [littleBytes, ofLittleBytes, ih, h, Nat.mod_mul]
    simp

end IntegerFormat

end Mishap
