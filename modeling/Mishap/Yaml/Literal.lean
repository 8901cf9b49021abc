import Mishap.Yaml.Gap

/-!
Block scalars: lines that are indented further than what they belong to, kept as they are or folded. The first line that
is not empty says how far, unless the header of the scalar does.
-/

namespace Mishap.Yaml

/-- What becomes of the line breaks at the end: all are dropped, one is kept, or all are. -/
inductive Chomping
  | strip
  | clip
  | keep
  deriving DecidableEq, Repr

def Chomping.ofChar? : Char → Option Chomping
  | '-' => some .strip
  | '+' => some .keep
  | _ => none

/-- What stands behind the mark of a block scalar: the chomping and the indentation, zero if it is not given. -/
structure LiteralHeader where
  chomping : Chomping
  indentation : Nat
  deriving DecidableEq, Repr

namespace LiteralHeader

/-- Reads the two parts of a header in either order. An indentation of zero is refused. -/
def read? (cells : List Cell) : Option (LiteralHeader × List Cell) :=
  let digit? (cells : List Cell) : Option Nat × List Cell :=
    match cells with
    | cell :: rest => if cell.char.isDigit then (some (cell.char.toNat - '0'.toNat), rest) else (none, cells)
    | [] => (none, [])
  let chomping? (cells : List Cell) : Option Chomping × List Cell :=
    match cells with
    | cell :: rest =>
      match Chomping.ofChar? cell.char with
      | some chomping => (some chomping, rest)
      | none => (none, cells)
    | [] => (none, [])
  let (before, rest) := chomping? cells
  let (indentation, rest) := digit? rest
  let (after, rest) := if before.isSome then (none, rest) else chomping? rest
  if indentation = some 0 then none
  else some (⟨(before <|> after).getD .clip, indentation.getD 0⟩, rest)

end LiteralHeader

/-- How far a block scalar has been read. Between two lines, the break behind the last one and those of the empty lines
after it are kept apart, last first. An indentation of zero is not known yet; then the widest empty line counts. -/
structure LiteralText where
  read : List Char
  lineBreak : Option Char
  emptyLines : List Char
  afterBlank : Bool
  inLine : Bool
  indentation : Nat
  widest : Nat
  deriving DecidableEq, Repr

namespace LiteralText

def initial (indentation : Nat) : LiteralText := ⟨[], none, [], false, false, indentation, 0⟩

/-- Whether `column` is part of the indentation. -/
def inMargin (t : LiteralText) (column : Nat) : Bool := t.indentation == 0 || column < t.indentation

/-- The line break that an empty line, or the end of a line, adds. -/
def addBreak (t : LiteralText) (c : Char) (column : Nat) : LiteralText :=
  if t.inLine then { t with inLine := false, lineBreak := some c }
  else { t with emptyLines := c :: t.emptyLines, widest := max t.widest column }

/-- The indentation, if a line that is not empty begins at `column`. -/
def settleIndentation (t : LiteralText) (least column : Nat) : Nat :=
  if t.indentation = 0 then max (max t.widest column) least else t.indentation

/-- The break between two lines: in folded text a space, unless one of the lines begins with a blank. -/
def joint (t : LiteralText) (isFolded : Bool) (c : Char) : List Char :=
  if isFolded ∧ t.lineBreak = some '\n' ∧ !t.afterBlank ∧ !isBlank c then
    if t.emptyLines = [] then [' '] else t.emptyLines
  else t.emptyLines ++ t.lineBreak.toList

/-- Begins a line with a character. -/
def addLine (t : LiteralText) (isFolded : Bool) (c : Char) : LiteralText :=
  { t with read := c :: (t.joint isFolded c ++ t.read), lineBreak := none, emptyLines := [],
           afterBlank := isBlank c, inLine := true }

/-- All characters, in order. -/
def chomped (t : LiteralText) (chomping : Chomping) : List Char :=
  let last := match chomping with
    | .strip => []
    | .clip => t.lineBreak.toList
    | .keep => t.emptyLines ++ t.lineBreak.toList
  (last ++ t.read).reverse

end LiteralText

/-- Reads the lines of a block scalar. Each begins at the indentation, which is at least `least`. -/
def literal? (isFolded : Bool) (chomping : Chomping) (least : Nat) (t : LiteralText) : List Cell → Option Excerpt
  | [] => some ⟨t.chomped chomping, true, []⟩
  | cell :: rest =>
    let column := cell.place.column
    if isBreak cell.char then literal? isFolded chomping least (t.addBreak cell.char column) rest
    else if t.inLine then literal? isFolded chomping least { t with read := cell.char :: t.read } rest
    else if t.inMargin column ∧ cell.char = ' ' then literal? isFolded chomping least t rest
    else if t.inMargin column ∧ cell.char = '\t' then none
    else
      let indentation := t.settleIndentation least column
      if column = indentation then
        literal? isFolded chomping least ({ t with indentation := indentation }.addLine isFolded cell.char) rest
      else some ⟨t.chomped chomping, true, cell :: rest⟩

end Mishap.Yaml
