import Mishap.Text.Radix
import Mishap.Yaml
import Mishap.Yaml.Cell

/-!
Lexemes of a YAML text, and the reading of those that name something: anchors, tags and directives.
-/

namespace Mishap.Yaml

/-- A part of a text. Where indentation makes a collection, lexemes of its own begin and end it. -/
inductive Lexeme
  | version (major minor : Nat)
  | shorthand (handle expansion : String)
  | documentStart
  | documentEnd
  | blockStart (shape : Shape)
  | blockEnd
  | blockEntry
  | flowStart (shape : Shape)
  | flowEnd (shape : Shape)
  | flowEntry
  | key
  | value
  | reference (name : String)
  | anchor (name : String)
  | tag (handle suffix : String)
  | scalar (text : String) (plain : Bool)
  deriving DecidableEq, Repr

/-! ### Names -/

/-- The characters of names of anchors, handles and directives. -/
def isNameChar (c : Char) : Bool := c.isAlphanum || c == '_' || c == '-'

/-- Reads the name of an anchor. -/
def anchorName? (cells : List Cell) : Option (String × List Cell) :=
  let (name, rest) := Cell.span isNameChar cells
  let follows := Cell.atSpace rest ||
    rest.head?.any fun cell => cell.char ∈ ['?', ':', ',', ']', '}', '%', '@', '\x60']
  if name ≠ [] ∧ follows then some (String.ofList name, rest) else none

/-! ### Tags -/

/-- The characters of a tag; brackets and commas are only allowed where its end is marked. -/
def isTagChar (delimited : Bool) (c : Char) : Bool :=
  isNameChar c ||
    c ∈ [';', '/', '?', ':', '@', '&', '=', '+', '$', '.', '%', '!', '~', '*', '\x27', '(', ')'] ||
    (delimited && c ∈ [',', '[', ']'])

/-- How many bytes follow the first byte of a character. -/
def followers? (byte : Nat) : Option Nat :=
  if byte < 0x80 then some 0
  else if 0xc0 ≤ byte ∧ byte < 0xe0 then some 1
  else if 0xe0 ≤ byte ∧ byte < 0xf0 then some 2
  else if 0xf0 ≤ byte ∧ byte < 0xf8 then some 3
  else none

/-- The bytes of a tag, each as a character. A percent sign and two hexadecimal digits are a byte, and the `missing`
ones that follow it have to be written so too. -/
def unescapeTag? (missing : Nat) : List Char → Option (List Char)
  | [] => if missing = 0 then some [] else none
  | '%' :: a :: b :: rest => do
    let byte ← Text.number? 16 [a, b]
    let missing ←
      if missing = 0 then followers? byte
      else if 0x80 ≤ byte ∧ byte < 0xc0 then some (missing - 1)
      else none
    return .ofNat byte :: (← unescapeTag? missing rest)
  | c :: rest => do
    guard (c ≠ '%' ∧ missing = 0)
    return c :: (← unescapeTag? missing rest)

def tagText? (delimited : Bool) (cells : List Cell) : Option (String × List Cell) := do
  let (text, rest) := Cell.span (isTagChar delimited) cells
  return (String.ofList (← unescapeTag? 0 text), rest)

/-- Reads what follows the exclamation mark of a tag: a whole tag in angle brackets, a handle and a suffix, or a
suffix alone. -/
def tagParts? (cells : List Cell) : Option (String × String × List Cell) := do
  match cells with
  | ⟨'<', _⟩ :: rest =>
    let (text, rest) ← tagText? true rest
    guard (text ≠ "" ∧ rest.head?.any (·.char == '>'))
    return ("", text, rest.tail)
  | cells =>
    let (name, rest) := Cell.span isNameChar cells
    match rest with
    | ⟨'!', _⟩ :: rest =>
      let (suffix, rest) ← tagText? false rest
      guard (suffix ≠ "")
      return ("!" ++ String.ofList name ++ "!", suffix, rest)
    | _ =>
      let (suffix, rest) ← tagText? false cells
      return if suffix = "" then ("", "!", rest) else ("!", suffix, rest)

def tag? (inFlow : Bool) (cells : List Cell) : Option (Lexeme × List Cell) := do
  let (handle, suffix, rest) ← tagParts? cells
  guard (Cell.atSpace rest || (inFlow && rest.head?.any (·.char == ',')))
  return (.tag handle suffix, rest)

/-! ### Directives -/

def versionNumber? (cells : List Cell) : Option (Nat × List Cell) :=
  let (digits, rest) := Cell.span Char.isDigit cells
  if digits ≠ [] ∧ digits.length ≤ 9 then some (Nat.ofDigitChars 10 digits 0, rest) else none

def version? (cells : List Cell) : Option (Lexeme × List Cell) := do
  let (major, rest) ← versionNumber? cells
  guard (rest.head?.any (·.char == '.'))
  let (minor, rest) ← versionNumber? rest.tail
  return (.version major minor, rest)

def shorthand? (cells : List Cell) : Option (Lexeme × List Cell) := do
  guard (cells.head?.any (·.char == '!'))
  let (name, rest) := Cell.span isNameChar cells.tail
  let isClosed := rest.head?.any (·.char == '!')
  guard (isClosed || name.isEmpty)
  let rest := if isClosed then rest.tail else rest
  guard (Cell.atBlank rest)
  let (expansion, rest) ← tagText? true (Cell.span isBlank rest).2
  guard (expansion ≠ "" ∧ Cell.atSpace rest)
  return (.shorthand ("!" ++ String.ofList name ++ if isClosed then "!" else "") expansion, rest)

/-- Reads what follows the percent sign of a directive, to the end of its line. -/
def directive? (cells : List Cell) : Option (Lexeme × List Cell) := do
  let (name, rest) := Cell.span isNameChar cells
  guard (Cell.atSpace rest)
  let arguments := (Cell.span isBlank rest).2
  let (lexeme, rest) ←
    if name = "YAML".toList then version? arguments
    else if name = "TAG".toList then shorthand? arguments
    else none
  return (lexeme, ← Cell.afterLine? rest)

end Mishap.Yaml
