import Mishap.Yaml.Cell

/-!
Folding: what stands between two words of a scalar. Blanks on a line stay as they are. Around a line break they are
dropped, one line feed becomes a space, and of several the first is dropped.
-/

namespace Mishap.Yaml

/-- The spaces since the last word, last first: blanks of one line, or a line break, unless it was escaped, and the line
breaks after it. -/
inductive Gap
  | blanks (read : List Char)
  | breaks (first : Option Char) (more : List Char)
  deriving DecidableEq, Repr

namespace Gap

def empty : Gap := .blanks []

/-- The gap that an escaped line break begins. -/
def escaped : Gap := .breaks none []

def add (c : Char) : Gap → Gap
  | blanks read => if isBreak c then .breaks (some c) [] else .blanks (c :: read)
  | breaks first more => .breaks first (if isBreak c then c :: more else more)

def isEmpty (gap : Gap) : Bool := gap == empty

def hasBreak : Gap → Bool
  | blanks _ => false
  | breaks _ _ => true

/-- What is left of the gap, last first. -/
def folded : Gap → List Char
  | blanks read => read
  | breaks (some '\n') [] => [' ']
  | breaks (some '\n') more => more
  | breaks first more => more ++ first.toList

end Gap

/-- What was read of a text: characters, whether the last of the spaces behind them go over a line break, and what
follows. -/
structure Excerpt where
  chars : List Char
  overLines : Bool
  rest : List Cell
  deriving DecidableEq, Repr

end Mishap.Yaml
