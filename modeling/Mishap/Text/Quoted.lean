import Mishap.Text.Extender
import Mishap.Text.Unprintable

/-!
Quoted text: double quotes around a string in which every character that has no glyph of its own, or would be
mistaken for a part of the quoting, is written as an escape.
-/

namespace Mishap.Text

def hexadecimal (n : Nat) : List Char := Nat.toDigits 16 n

/-- The code point of `c` between braces, in lower-case hexadecimal without leading zeros. -/
def codeEscape (c : Char) : List Char :=
  ['\\', 'u', '{'] ++ hexadecimal c.toNat ++ ['}']

def escapeChar (c : Char) : List Char :=
  match c with
  | '\x00' => ['\\', '0']
  | '\t' => ['\\', 't']
  | '\n' => ['\\', 'n']
  | '\r' => ['\\', 'r']
  | '"' => ['\\', '"']
  | '\\' => ['\\', '\\']
  | c => if isExtender c || !isPrintable c then codeEscape c else [c]

/-- A single quote stays as it is: only double quotes end the text. -/
def quoted (s : String) : String :=
  String.ofList ('"' :: (s.toList.flatMap escapeChar ++ ['"']))

end Mishap.Text
