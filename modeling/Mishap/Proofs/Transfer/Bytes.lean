import Mishap.Transfer.Integer

/-!
Integers as bytes. Main statements: the bytes of an integer are read as that integer in the order they were written in,
and as the integer with its bytes reversed in the other order.
-/

namespace Mishap

/-- An integer in a format that has room for it. -/
structure FixedInteger where
  format : IntegerFormat
  value : Nat
  inRange : value < Nat.pow 256 format.size

namespace IntegerFormat

theorem ofLittleBytes_append (low high : List UInt8) :
    ofLittleBytes (low ++ high) = ofLittleBytes low + Nat.pow 256 low.length * ofLittleBytes high := by
  induction low with
  | nil => simp [ofLittleBytes]
  | cons b low ih =>
    have hpow : Nat.pow 256 (b :: low).length = 256 * Nat.pow 256 low.length := Nat.mul_comm ..
    rw [List.cons_append, ofLittleBytes, ofLittleBytes, ih, hpow, Nat.mul_add, Nat.mul_assoc, Nat.add_assoc]

/-- The number whose `size` bytes are those of `n` from the other end. -/
def reversedBytes : Nat → Nat → Nat
  | 0, _ => 0
  | size + 1, n => n % 256 * Nat.pow 256 size + reversedBytes size (n / 256)

theorem ofLittleBytes_reverse_littleBytes (size n : Nat) :
    ofLittleBytes (littleBytes size n).reverse = reversedBytes size n := by
  induction size generalizing n with
  | zero => rfl
  | succ size ih =>
    have hbyte : ofLittleBytes [.ofNat (n % 256)] = n % 256 := by simp [ofLittleBytes]
    rw [littleBytes, List.reverse_cons, ofLittleBytes_append, ih, hbyte, List.length_reverse, length_littleBytes,
      reversedBytes, Nat.add_comm, Nat.mul_comm]

theorem length_encode (format : IntegerFormat) (n : Nat) : (format.encode n).length = format.size := by
  rw [encode]
  split
  · exact length_littleBytes ..
  · rw [List.length_reverse, length_littleBytes]

theorem decode_encode (format : IntegerFormat) {n : Nat} (h : n < Nat.pow 256 format.size) :
    format.decode (format.encode n) = n := by
  have hlittle : ofLittleBytes (littleBytes format.size n) = n := by
    rw [ofLittleBytes_littleBytes, Nat.mod_eq_of_lt h]
  rw [encode, decode]
  cases format.order with
  | little => exact hlittle
  | big =>
    dsimp only
    rw [List.reverse_reverse, hlittle]

theorem decode_encode_of_ne (width : IntegerWidth) {read written : ByteOrder} (h : read ≠ written) (n : Nat) :
    decode ⟨width, read⟩ (encode ⟨width, written⟩ n) = reversedBytes (size ⟨width, written⟩) n := by
  rw [← ofLittleBytes_reverse_littleBytes]
  cases written <;> cases read <;> first | rfl | exact absurd rfl h

end IntegerFormat

namespace FixedInteger

def bytes (n : FixedInteger) : List UInt8 := n.format.encode n.value

theorem length_bytes (n : FixedInteger) : n.bytes.length = n.format.size := n.format.length_encode n.value

end FixedInteger

/-- An integer that is written, and the order in which its bytes are read back. -/
structure Passage where
  integer : FixedInteger
  order : ByteOrder

namespace Passage

def readFormat (p : Passage) : IntegerFormat := ⟨p.integer.format.width, p.order⟩

/-- What the bytes are read as: the integer itself in the order in which they were written. -/
def arrival (p : Passage) : Nat :=
  if p.order = p.integer.format.order then p.integer.value
  else IntegerFormat.reversedBytes p.integer.format.size p.integer.value

theorem size_readFormat (p : Passage) : p.readFormat.size = p.integer.bytes.length := p.integer.length_bytes.symm

theorem decode_bytes (p : Passage) : p.readFormat.decode p.integer.bytes = p.arrival := by
  rw [readFormat, arrival, FixedInteger.bytes]
  split
  · next horder =>
    rw [horder]
    exact p.integer.format.decode_encode p.integer.inRange
  · next horder => exact IntegerFormat.decode_encode_of_ne p.integer.format.width horder p.integer.value

end Passage

end Mishap
