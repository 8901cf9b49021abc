import Mishap.Json.Escape
import Mishap.Json.Number

/-!
Lexemes of a JSON text: scalars, brackets and separators. Blanks only keep lexemes apart.
-/

namespace Mishap.Json

/-- The two kinds of container. -/
inductive Shape
  | array
  | object
  deriving DecidableEq, Repr

inductive Lexeme
  | scalar (j : Json)
  | opening (shape : Shape)
  | closing (shape : Shape)
  | comma
  | colon

namespace Lexeme

def isBlank (c : Char) : Bool := c == ' ' || c == '\t' || c == '\n' || c == '\r'

def ofMark? : Char → Option Lexeme
  | '[' => some (.opening .array)
  | ']' => some (.closing .array)
  | '{' => some (.opening .object)
  | '}' => some (.closing .object)
  | ',' => some .comma
  | ':' => some .colon
  | _ => none

/-- The scalar that characters without blanks, marks and quotes write. -/
def ofWord? (word : List Char) : Option Lexeme :=
  if word = "null".toList then some (.scalar .null)
  else if word = "true".toList then some (.scalar (.bool true))
  else if word = "false".toList then some (.scalar (.bool false))
  else (readNumber? word).map .scalar

/-- What the last characters belong to, those read of it last first: nothing, a word, a text, or a text with a backslash
at its end. -/
inductive Unfinished
  | nothing
  | word (read : List Char)
  | text (read : List Char)
  | escape (read : List Char)

/-- How far a text has been read: the lexemes found, last first, and what is unfinished. -/
structure Scan where
  found : List Lexeme
  unfinished : Unfinished

namespace Scan

/-- Ends the word that is being read, if there is one. -/
def endWord? (s : Scan) : Option Scan :=
  match s.unfinished with
  | .word read => (ofWord? read.reverse).map fun l => ⟨l :: s.found, .nothing⟩
  | _ => some s

/-- Reads one character outside of texts. -/
def outside? (s : Scan) (c : Char) : Option Scan :=
  if isBlank c then s.endWord?
  else if c = '"' then s.endWord?.map ({ · with unfinished := .text [] })
  else
    match ofMark? c, s.unfinished with
    | some l, _ => s.endWord?.map fun s => ⟨l :: s.found, .nothing⟩
    | none, .word read => some ⟨s.found, .word (c :: read)⟩
    | none, _ => some ⟨s.found, .word [c]⟩

/-- Reads one character. -/
def step? (s : Scan) (c : Char) : Option Scan :=
  match s.unfinished with
  | .text read =>
    if c = '"' then (unescape? read.reverse).map fun t => ⟨.scalar (.text t) :: s.found, .nothing⟩
    else if c = '\\' then some ⟨s.found, .escape (c :: read)⟩
    else some ⟨s.found, .text (c :: read)⟩
  | .escape read => some ⟨s.found, .text (c :: read)⟩
  | _ => s.outside? c

/-- The lexemes of a text that ends here. -/
def finish? (s : Scan) : Option (List Lexeme) :=
  s.endWord?.bind fun s =>
    match s.unfinished with
    | .nothing => some s.found.reverse
    | _ => none

end Scan

def scan? (text : List Char) : Option (List Lexeme) :=
  (text.foldlM Scan.step? ⟨[], .nothing⟩).bind Scan.finish?

end Lexeme

end Mishap.Json
