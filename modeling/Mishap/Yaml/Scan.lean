import Mishap.Yaml.Lexeme
import Mishap.Yaml.Literal
import Mishap.Yaml.Plain
import Mishap.Yaml.Quoted

/-!
Reading a YAML text as lexemes. Names of entries are found out by the colon behind them: what could be a name is kept in
mind until it is too far back, and the lexemes that make it one are put in front of it.
-/

namespace Mishap.Yaml

/-- What a name may begin with: its place, the lexemes before it, and whether nothing but a name may stand there. -/
structure PossibleKey where
  place : Place
  position : Nat
  required : Bool
  deriving DecidableEq, Repr

/-- How far a text has been read: the lexemes found, last first, and their number; whether a name may begin here; what
may be a name, in the innermost flow collection and in those around it, the block outside of them all being the last;
and the columns of the blocks around this place. -/
structure Scan where
  found : List Lexeme
  count : Nat
  keyAllowed : Bool
  key : Option PossibleKey
  outer : List (Option PossibleKey)
  indent : Int
  indents : List Int
  deriving Repr

namespace Scan

def initial : Scan := ⟨[], 0, true, none, [], -1, []⟩

def inFlow (s : Scan) : Bool := !s.outer.isEmpty

def add (s : Scan) (l : Lexeme) : Scan := { s with found := l :: s.found, count := s.count + 1 }

/-- Puts a lexeme behind the first `position` ones. -/
def insert (s : Scan) (position : Nat) (l : Lexeme) : Scan :=
  let later := s.count - position
  { s with found := s.found.take later ++ l :: s.found.drop later, count := s.count + 1 }

def allowKey (s : Scan) (allowed : Bool) : Scan := { s with keyAllowed := allowed }

/-! ### Names -/

/-- How many bytes behind its beginning the colon of a name may stand. -/
def longestKey : Nat := 1024

/-- A name ends on its line, and is not too long. -/
def fresh? (here : Place) (key : Option PossibleKey) : Option (Option PossibleKey) :=
  match key with
  | some k =>
    if k.place.line < here.line ∨ k.place.offset + longestKey < here.offset then
      if k.required then none else some none
    else some (some k)
  | none => some none

def dropOld? (s : Scan) (here : Place) : Option Scan := do
  return { s with key := ← fresh? here s.key, outer := ← s.outer.mapM (fresh? here) }

/-- Gives up what may be a name. -/
def dropKey? (s : Scan) : Option Scan :=
  if s.key.any (·.required) then none else some { s with key := none }

/-- Keeps in mind what may be a name. -/
def saveKey? (s : Scan) (here : Place) : Option Scan :=
  if s.keyAllowed then
    s.dropKey?.map ({ · with key := some ⟨here, s.count, !s.inFlow && s.indent == here.column⟩ })
  else some s

/-! ### Indentation -/

/-- Begins a block at a column that is further right, putting its lexeme at a position. -/
def beginBlock (s : Scan) (column position : Nat) (shape : Shape) : Scan :=
  if !s.inFlow ∧ s.indent < column then
    { s with indent := column, indents := s.indent :: s.indents }.insert position (.blockStart shape)
  else s

/-- Ends the blocks that are further right than a column. -/
def endBlocksIn (column : Int) : Scan → List Int → Scan
  | s, [] => { s with indents := [] }
  | s, indent :: indents =>
    if column < s.indent then endBlocksIn column { s.add .blockEnd with indent } indents
    else { s with indents := indent :: indents }

def endBlocks (s : Scan) (column : Int) : Scan := if s.inFlow then s else endBlocksIn column s s.indents

/-! ### Lexemes -/

/-- Begins a flow collection. -/
def enter? (s : Scan) (here : Place) (shape : Shape) : Option Scan := do
  let s ← s.saveKey? here
  return ({ s with key := none, outer := s.key :: s.outer, keyAllowed := true }.add (.flowStart shape))

/-- Ends a flow collection. -/
def leave? (s : Scan) (shape : Shape) : Option Scan := do
  let s ← s.dropKey?
  let s := match s.outer with
    | key :: outer => { s with key, outer }
    | [] => s
  return (s.allowKey false).add (.flowEnd shape)

def flowEntry? (s : Scan) : Option Scan := do
  return ((← s.dropKey?).allowKey true).add .flowEntry

/-- A dash begins a sequence where a name could begin. -/
def blockEntry? (s : Scan) (here : Place) : Option Scan := do
  guard (s.inFlow || s.keyAllowed)
  let s ← (s.beginBlock here.column s.count .sequence).dropKey?
  return (s.allowKey true).add .blockEntry

/-- A question mark says that a name follows. -/
def key? (s : Scan) (here : Place) : Option Scan := do
  guard (s.inFlow || s.keyAllowed)
  let s ← (s.beginBlock here.column s.count .mapping).dropKey?
  return (s.allowKey !s.inFlow).add .key

/-- A colon makes a name of what may be one. -/
def value? (s : Scan) (here : Place) : Option Scan :=
  match s.key with
  | some k =>
    let s := (s.insert k.position .key).beginBlock k.place.column k.position .mapping
    some ({ s with key := none, keyAllowed := false }.add .value)
  | none => do
    guard (s.inFlow || s.keyAllowed)
    let s := s.beginBlock here.column s.count .mapping
    return (s.allowKey !s.inFlow).add .value

/-- A directive or a mark between documents ends all blocks. -/
def boundary? (s : Scan) (l : Lexeme) : Option Scan := do
  return ((← (s.endBlocks (-1)).dropKey?).allowKey false).add l

/-- A lexeme that a name may begin with. -/
def part? (s : Scan) (here : Place) (l : Lexeme) : Option Scan := do
  return ((← s.saveKey? here).allowKey false).add l

/-- A scalar that a name may be. -/
def scalar? (s : Scan) (here : Place) (plain : Bool) (e : Excerpt) : Option (Scan × List Cell) := do
  let s ← s.part? here (.scalar (String.ofList e.chars) plain)
  return (s.allowKey e.overLines, e.rest)

/-- The least column of a scalar that belongs to the innermost block. -/
def least (s : Scan) : Int := s.indent + 1

/-- A block scalar, behind its mark. -/
def literal? (s : Scan) (isFolded : Bool) (cells : List Cell) : Option (Scan × List Cell) := do
  let (header, rest) ← LiteralHeader.read? cells
  let indentation := if header.indentation = 0 then 0 else (max s.indent 0).toNat + header.indentation
  let text ← Yaml.literal? isFolded header.chomping (max s.least 1).toNat (.initial indentation)
    (← Cell.afterLine? rest)
  return (((← s.dropKey?).allowKey true).add (.scalar (String.ofList text.chars) false), text.rest)

/-- Reads the lexeme that begins with `cell`. -/
def lexeme? (s : Scan) (cell : Cell) (rest : List Cell) : Option (Scan × List Cell) :=
  let here := cell.place
  let single (s : Option Scan) := s.map fun s => (s, rest)
  if here.column = 0 ∧ cell.char = '%' then
    (directive? rest).bind fun (l, rest) => (s.boundary? l).map fun s => (s, rest)
  else if Cell.atDocumentMark (cell :: rest) then
    (s.boundary? (if cell.char = '-' then .documentStart else .documentEnd)).map fun s => (s, rest.drop 2)
  else
    match cell.char with
    | '[' => single (s.enter? here .sequence)
    | '{' => single (s.enter? here .mapping)
    | ']' => single (s.leave? .sequence)
    | '}' => single (s.leave? .mapping)
    | ',' => single s.flowEntry?
    | '*' => (anchorName? rest).bind fun (name, rest) => (s.part? here (.reference name)).map fun s => (s, rest)
    | '&' => (anchorName? rest).bind fun (name, rest) => (s.part? here (.anchor name)).map fun s => (s, rest)
    | '!' => (tag? s.inFlow rest).bind fun (l, rest) => (s.part? here l).map fun s => (s, rest)
    | '\x27' => (quoted? .single .initial rest).bind (s.scalar? here false)
    | '"' => (quoted? .double .initial rest).bind (s.scalar? here false)
    | c =>
      if c = '-' ∧ Cell.atSpace rest then single (s.blockEntry? here)
      else if c = '?' ∧ (s.inFlow ∨ Cell.atSpace rest) then single (s.key? here)
      else if c = ':' ∧ (s.inFlow ∨ Cell.atSpace rest) then single (s.value? here)
      else if (c = '|' ∨ c = '>') ∧ !s.inFlow then s.literal? (c = '>') rest
      else if beginsPlain s.inFlow c rest then
        (plain? s.inFlow s.least [] .empty (cell :: rest)).bind (s.scalar? here true)
      else none

/-- Ends the blocks that are still open; gives all lexemes in order. -/
def finish? (s : Scan) : Option (List Lexeme) := do
  return (← (s.endBlocks (-1)).dropKey?).found.reverse

/-- What stands in front of the next lexeme is skipped: spaces, comments and a mark of the byte order that begins a
line. Tabs are no spaces where a name may begin, and behind a line break one may. -/
def skip (inFlow keyAllowed inComment : Bool) : List Cell → Bool × List Cell
  | [] => (keyAllowed, [])
  | cell :: rest =>
    if isBreak cell.char then skip inFlow (keyAllowed || !inFlow) false rest
    else if inComment || cell.char == '#' then skip inFlow keyAllowed true rest
    else if cell.char == ' ' || (cell.char == '\t' && (inFlow || !keyAllowed)) ||
        (cell.char == '\ufeff' && cell.place.column == 0) then
      skip inFlow keyAllowed false rest
    else (keyAllowed, cell :: rest)

/-- Skips to the next lexeme and reads it; gives all lexemes at the end. -/
def step? (s : Scan) (cells : List Cell) : Option (List Lexeme ⊕ (Scan × List Cell)) :=
  let (keyAllowed, cells) := skip s.inFlow s.keyAllowed false cells
  let s := s.allowKey keyAllowed
  match cells with
  | [] => s.finish?.map .inl
  | cell :: rest => do
    let s ← s.dropOld? cell.place
    return .inr (← (s.endBlocks cell.place.column).lexeme? cell rest)

/-- Reads on for at most so many lexemes. -/
def run? : Nat → Scan → List Cell → Option (List Lexeme)
  | 0, _, _ => none
  | n + 1, s, cells =>
    match s.step? cells with
    | none => none
    | some (.inl lexemes) => some lexemes
    | some (.inr (s, rest)) => run? n s rest

end Scan

/-- The lexemes of a text. Every lexeme that is read takes a character at least. -/
def lexemes? (text : String) : Option (List Lexeme) :=
  (cells? text).bind fun cells => Scan.run? (cells.length + 1) .initial cells

end Mishap.Yaml
