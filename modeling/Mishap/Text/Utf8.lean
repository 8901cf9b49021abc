/-!
UTF-8: the bytes of a text, and the text of bytes that need not be well formed. Reading replaces every maximal part
that cannot be continued to a character by U+FFFD, so it never fails.
-/

namespace Mishap.Text

def utf8Bytes (s : String) : List UInt8 := s.toList.flatMap String.utf8EncodeChar

/-- What the first byte of a longer sequence announces: the bytes to come, the bits it holds itself, and the range of
the byte after it, which rules out overlong forms, surrogates and code points beyond the last. -/
structure Lead where
  remaining : Nat
  bits : Nat
  low : UInt8 := 0x80
  high : UInt8 := 0xBF

def lead? (b : UInt8) : Option Lead :=
  if b < 0xC2 then none
  else if b < 0xE0 then some { remaining := 1, bits := b.toNat - 0xC0 }
  else if b < 0xF0 then
    some { remaining := 2, bits := b.toNat - 0xE0,
           low := if b = 0xE0 then 0xA0 else 0x80, high := if b = 0xED then 0x9F else 0xBF }
  else if b < 0xF5 then
    some { remaining := 3, bits := b.toNat - 0xF0,
           low := if b = 0xF0 then 0x90 else 0x80, high := if b = 0xF4 then 0x8F else 0xBF }
  else none

/-- Reads the bytes that a lead announces onto the bits read so far; gives no code point if one of them does not fit,
and the bytes from that one on. -/
def trailing (remaining bits : Nat) (low high : UInt8) : List UInt8 → Option Nat × List UInt8
  | [] => (if remaining = 0 then some bits else none, [])
  | b :: rest =>
    match remaining with
    | 0 => (some bits, b :: rest)
    | n + 1 =>
      if low ≤ b ∧ b ≤ high then trailing n (bits * 64 + b.toNat % 64) 0x80 0xBF rest
      else (none, b :: rest)

theorem length_trailing_le (remaining bits : Nat) (low high : UInt8) (bytes : List UInt8) :
    (trailing remaining bits low high bytes).2.length ≤ bytes.length := by
  induction bytes generalizing remaining bits low high with
  | nil => simp [trailing]
  | cons b rest ih =>
    cases remaining with
    | zero => simp [trailing]
    | succ n =>
      simp only [trailing]
      split
      · exact Nat.le_succ_of_le (ih ..)
      · simp

def decodeLossy : List UInt8 → List Char
  | [] => []
  | b :: rest =>
    if b < 0x80 then Char.ofNat b.toNat :: decodeLossy rest
    else
      match lead? b with
      | none => '\uFFFD' :: decodeLossy rest
      | some l =>
        let read := trailing l.remaining l.bits l.low l.high rest
        (read.1.elim '\uFFFD' Char.ofNat) :: decodeLossy read.2
termination_by bytes => bytes.length
decreasing_by
  · simp
  · simp
  · exact Nat.lt_succ_of_le (length_trailing_le ..)

/-- The text of `bytes`, with U+FFFD where they are not UTF-8. -/
def ofBytesLossy (bytes : List UInt8) : String := String.ofList (decodeLossy bytes)

end Mishap.Text
