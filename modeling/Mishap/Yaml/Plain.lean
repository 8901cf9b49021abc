import Mishap.Yaml.Gap

/-!
Plain scalars. One ends at a comment, at a colon before a space, where a line is not indented far enough, and in a flow
collection at the marks of the collection.
-/

namespace Mishap.Yaml

/-- The characters that begin something else than a plain scalar. -/
def indicators : List Char :=
  ['-', '?', ':', ',', '[', ']', '{', '}', '#', '&', '*', '!', '|', '>', '\x27', '"', '%', '@', '\x60']

/-- The marks that a flow collection is made of. -/
def flowMarks : List Char := [',', '[', ']', '{', '}']

/-- Whether a plain scalar begins with `c` before `rest`. -/
def beginsPlain (inFlow : Bool) (c : Char) (rest : List Cell) : Bool :=
  (!isBlank c && c ∉ indicators) || (c == '-' && !Cell.atBlank rest) ||
    (!inFlow && (c == '?' || c == ':') && !Cell.atSpace rest)

/-- Whether a plain scalar ends in front of `c` before `rest`. -/
def endsPlain (inFlow : Bool) (c : Char) (rest : List Cell) : Bool :=
  (c == ':' && Cell.atSpace rest) || (inFlow && c ∈ flowMarks)

/-- Whether a colon stands where neither a text nor an entry goes on. -/
def misplacedColon (inFlow : Bool) (c : Char) (rest : List Cell) : Bool :=
  inFlow && c == ':' && rest.head?.any fun cell => cell.char == '?' || cell.char ∈ flowMarks

/-- Whether a plain scalar ends behind a gap, in front of a word that begins with `cell`. -/
def endsBehind (inFlow : Bool) (least : Int) (gap : Gap) (cell : Cell) (rest : List Cell) : Bool :=
  !gap.isEmpty &&
    ((!inFlow && gap.hasBreak && cell.place.column < least) || Cell.atDocumentMark (cell :: rest) || cell.char == '#')

/-- Reads a plain scalar on, `read` and the gap being behind. Its lines are indented to the column `least`, and not
with tabs. -/
def plain? (inFlow : Bool) (least : Int) (read : List Char) (gap : Gap) : List Cell → Option Excerpt
  | [] => some ⟨read.reverse, gap.hasBreak, []⟩
  | cell :: rest =>
    if cell.isSpace then
      if gap.hasBreak && cell.char == '\t' && cell.place.column < least then none
      else plain? inFlow least read (gap.add cell.char) rest
    else if endsBehind inFlow least gap cell rest then some ⟨read.reverse, gap.hasBreak, cell :: rest⟩
    else if misplacedColon inFlow cell.char rest then none
    else if endsPlain inFlow cell.char rest then some ⟨read.reverse, gap.hasBreak, cell :: rest⟩
    else plain? inFlow least (cell.char :: (gap.folded ++ read)) .empty rest

end Mishap.Yaml
