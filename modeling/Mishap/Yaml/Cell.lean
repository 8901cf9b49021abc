/-!
The characters of a YAML text, each with its place.
-/

namespace Mishap.Yaml

/-- A place in a text: the bytes before it, the lines before its own, and the characters before it on its line. -/
structure Place where
  offset : Nat
  line : Nat
  column : Nat
  deriving DecidableEq, Repr

structure Cell where
  char : Char
  place : Place
  deriving DecidableEq, Repr

def isBlank (c : Char) : Bool := c == ' ' || c == '\t'

/-- The line breaks that are left in cells. -/
def isBreak (c : Char) : Bool := c == '\n' || c == '\u2028' || c == '\u2029'

/-- Characters that may stand in a text. -/
def isReadable (c : Char) : Bool :=
  c == '\t' || c == '\n' || c == '\r' || (' ' ≤ c && c ≤ '~') || c == '\u0085' ||
    ('\u00a0' ≤ c && c.toNat != 0xFFFE && c.toNat != 0xFFFF)

/-- The place behind a character of so many bytes. -/
def Place.next (p : Place) (c : Char) (bytes : Nat) : Place :=
  if isBreak c then ⟨p.offset + bytes, p.line + 1, 0⟩ else ⟨p.offset + bytes, p.line, p.column + 1⟩

/-- The cells of characters from a place on. A carriage return, with or without a line feed, and U+0085 are line
feeds. -/
def cellsFrom (p : Place) : List Char → List Cell
  | [] => []
  | '\r' :: '\n' :: rest => ⟨'\n', p⟩ :: cellsFrom (p.next '\n' 2) rest
  | c :: rest =>
    let d := if c == '\r' || c == '\u0085' then '\n' else c
    ⟨d, p⟩ :: cellsFrom (p.next d c.utf8Size) rest

/-- The cells of a text; none if it holds a character that is not allowed. -/
def cells? (text : String) : Option (List Cell) :=
  if text.toList.all isReadable then some (cellsFrom ⟨0, 0, 0⟩ text.toList) else none

namespace Cell

def isSpace (cell : Cell) : Bool := isBlank cell.char || isBreak cell.char

/-- Whether a blank, a line break or the end comes next. -/
def atSpace (cells : List Cell) : Bool := cells.head?.all isSpace

def atBlank (cells : List Cell) : Bool := cells.head?.any fun cell => isBlank cell.char

def atBreak (cells : List Cell) : Bool := cells.head?.all fun cell => isBreak cell.char

/-- The longest part at the front whose characters are all of a kind, and what follows it. -/
def span (kind : Char → Bool) (cells : List Cell) : List Char × List Cell :=
  ((cells.takeWhile fun cell => kind cell.char).map Cell.char, cells.dropWhile fun cell => kind cell.char)

/-- Whether three dashes, or three points, stand at the front of a line as a word of their own. -/
def atDocumentMark (cells : List Cell) : Bool :=
  match cells with
  | a :: b :: c :: rest =>
    a.place.column == 0 && (a.char == '-' || a.char == '.') && a.char == b.char && a.char == c.char && atSpace rest
  | _ => false

/-- What follows the end of a line on which nothing but blanks and a comment is left. -/
def afterLine? (cells : List Cell) : Option (List Cell) :=
  let rest := cells.dropWhile fun cell => isBlank cell.char
  let rest :=
    if rest.head?.any fun cell => cell.char == '#' then rest.dropWhile fun cell => !isBreak cell.char else rest
  if atBreak rest then some rest.tail else none

end Cell

end Mishap.Yaml
