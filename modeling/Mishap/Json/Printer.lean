import Mishap.Json
import Mishap.Value.Display

/-!
Writing JSON: without blanks, with escapes only for quotes, backslashes and control characters.
-/

namespace Mishap.Json

/-- A control character without an escape of its own is written by its code point in four hexadecimal digits. -/
def escapeChar (c : Char) : List Char :=
  match c with
  | '"' => ['\\', '"']
  | '\\' => ['\\', '\\']
  | '\x08' => ['\\', 'b']
  | '\x0c' => ['\\', 'f']
  | '\n' => ['\\', 'n']
  | '\r' => ['\\', 'r']
  | '\t' => ['\\', 't']
  | c =>
    if c.toNat < 0x20 then
      let digits := Nat.toDigits 16 c.toNat
      ['\\', 'u'] ++ List.replicate (4 - digits.length) '0' ++ digits
    else [c]

def quoted (s : String) : String :=
  String.ofList ('"' :: (s.toList.flatMap escapeChar ++ ['"']))

/-- A number that is not finite has no JSON form. -/
def floatText (x : Binary64) : String :=
  match x with
  | .finite .. => FloatStyle.json.text x
  | _ => "null"

mutual

def render : Json → String
  | null => "null"
  | bool b => Value.boolText b
  | integer n => integerText n
  | float x => floatText x
  | text s => quoted s
  | array items => "[" ++ ",".intercalate (renderItems items) ++ "]"
  | object members => "\x7b" ++ ",".intercalate (renderMembers members) ++ "\x7d"
termination_by structural j => j

def renderItems : List Json → List String
  | [] => []
  | j :: rest => j.render :: renderItems rest
termination_by structural items => items

def renderMembers : List (String × Json) → List String
  | [] => []
  | (name, j) :: rest => (quoted name ++ ":" ++ j.render) :: renderMembers rest
termination_by structural members => members

end

end Mishap.Json
