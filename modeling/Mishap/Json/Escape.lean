import Mishap.Text.Radix

/-!
The inside of a JSON text: what stands between its quotes is read as characters and UTF-16 units, and two units that
belong together become one character.
-/

namespace Mishap.Json

/-- A character as it was written, or the number of a UTF-16 unit. -/
inductive Piece
  | char (c : Char)
  | unit (n : Nat)
  deriving DecidableEq, Repr

/-- The character that a backslash and one more character stand for. -/
def escaped? : Char → Option Char
  | '"' => some '"'
  | '\\' => some '\\'
  | '/' => some '/'
  | 'b' => some '\x08'
  | 'f' => some '\x0c'
  | 'n' => some '\n'
  | 'r' => some '\r'
  | 't' => some '\t'
  | _ => none

/-- The pieces of a text. Control characters have to be escaped. -/
def pieces? : List Char → Option (List Piece)
  | [] => some []
  | '\\' :: 'u' :: a :: b :: c :: d :: rest => do
    let n ← Text.number? 16 [a, b, c, d]
    return .unit n :: (← pieces? rest)
  | '\\' :: c :: rest => do
    let c ← escaped? c
    return .char c :: (← pieces? rest)
  | c :: rest => do
    guard (c ≠ '\\' ∧ 0x20 ≤ c.toNat)
    return .char c :: (← pieces? rest)

def isHighUnit (n : Nat) : Bool := 0xD800 ≤ n && n < 0xDC00

def isLowUnit (n : Nat) : Bool := 0xDC00 ≤ n && n < 0xE000

/-- The character of a high unit and the low unit after it. -/
def pairedChar (high low : Nat) : Char := .ofNat (0x10000 + (high - 0xD800) * 0x400 + (low - 0xDC00))

/-- The characters of some pieces, after the high unit in `pending` if there is one. A high unit is followed by a low
one, and a low unit stands nowhere else. -/
def joined? (pending : Option Nat) : List Piece → Option (List Char)
  | [] => if pending.isNone then some [] else none
  | .char c :: rest => if pending.isNone then (joined? none rest).map (c :: ·) else none
  | .unit n :: rest =>
    match pending with
    | some high => if isLowUnit n then (joined? none rest).map (pairedChar high n :: ·) else none
    | none =>
      if isHighUnit n then joined? (some n) rest
      else if isLowUnit n then none
      else (joined? none rest).map (Char.ofNat n :: ·)

/-- The text that stands between two quotes. -/
def unescape? (inside : List Char) : Option String :=
  ((pieces? inside).bind (joined? none)).map String.ofList

end Mishap.Json
