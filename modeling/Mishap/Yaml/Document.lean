import Mishap.Yaml.Scan

/-!
Reading lexemes as a document: one node, perhaps behind directives, and nothing after it.
-/

namespace Mishap.Yaml

/-- A node and the anchored nodes in it, by their numbers, the last one first. -/
structure Document where
  root : Yaml
  anchored : List (Nat × Yaml)

/-- What is left to read, the numbers of the names of anchors, and the anchored nodes so far, the last one first. A
node is missing while it is being read. -/
structure Source where
  lexemes : List Lexeme
  anchors : List (String × Nat)
  anchored : List (Nat × Option Yaml)
  shorthands : List (String × String)

abbrev Read := StateT Source Option

namespace Read

def peek : Read (Option Lexeme) := return (← get).lexemes.head?

def advance : Read Unit := modify fun s => { s with lexemes := s.lexemes.tail }

/-- Reads a lexeme that has to come next. -/
def expect (l : Lexeme) : Read Unit := do
  guard ((← peek) = some l)
  advance

/-! ### Anchors and tags -/

/-- A reference to the anchor that has a name last. -/
def target (name : String) : Read Yaml := do
  match (← get).anchors.lookup name with
  | some anchor => return .reference anchor
  | none => failure

/-- Anchors the node that `read` gives. Its number is how many different names there are so far; its own counts too
if it is used again, and so a number may be given twice. -/
def anchored (name : Option String) (read : Read Yaml) : Read Yaml := do
  match name with
  | none => read
  | some name =>
    let s ← get
    let anchor := s.anchors.length
    set { s with
      anchors := (name, anchor) :: s.anchors.filter (·.1 != name)
      anchored := (anchor, none) :: s.anchored }
    let y ← read
    modify fun t => { t with anchored := t.anchored.set (t.anchored.length - s.anchored.length - 1) (anchor, some y) }
    return y

def anchor? : Read (Option String) := do
  match ← peek with
  | some (.anchor name) =>
    advance
    return some name
  | _ => return none

/-- The whole tag that a handle and a suffix stand for. -/
def tagOf (handle suffix : String) : Read String := do
  if handle = "" then return suffix
  match (← get).shorthands.lookup handle with
  | some expansion => return expansion ++ suffix
  | none => failure

def tag? : Read (Option String) := do
  match ← peek with
  | some (.tag handle suffix) =>
    advance
    return some (← tagOf handle suffix)
  | _ => return none

/-- An anchor and a tag, in either order. -/
def properties : Read (Option String × Option String) := do
  match ← anchor? with
  | some name => return (some name, ← tag?)
  | none =>
    let tag ← tag?
    return (← anchor?, tag)

/-! ### Nodes -/

/-- Where a node stands: inside of a flow collection, in a block, or as a part of an entry of a block, where the
dashes of a sequence need not be indented. -/
inductive Position
  | flow
  | block
  | entry
  deriving DecidableEq, Repr

/-- What a block entry ends at. -/
def endsEntry : Option Lexeme → Bool
  | some .key | some .value | some .blockEnd => true
  | _ => false

/-- What an item of a block sequence ends at; without indentation it also ends where the entry around it does. -/
def endsItem (position : Position) (l : Option Lexeme) : Bool :=
  l == some .blockEntry || l == some .blockEnd || (position == .entry && endsEntry l)

/-- What a part of a flow collection ends at. -/
def endsFlow (shape : Shape) (l : Option Lexeme) : Bool :=
  l == some .value || l == some .flowEntry || l == some (.flowEnd shape)

/-- The node that `read` gives, unless nothing is written there. -/
def unlessEnded (ended : Option Lexeme → Bool) (read : Read Yaml) : Read Yaml := do
  if ended (← peek) then return nothing else read

/-- The value that `read` gives, if there is one. -/
def valueIfAny (read : Read Yaml) : Read Yaml := do
  if (← peek) = some .value then
    advance
    read
  else return nothing

/-- A scalar with only an exclamation mark for a tag has none. -/
def scalarTag (tag : Option String) : Option String := tag.filter (· ≠ "!")

/-- Reads the comma between two parts of a flow collection. -/
def separator (first : Bool) (shape : Shape) : Read Unit := do
  if !first ∧ (← peek) ≠ some (.flowEnd shape) then expect .flowEntry

mutual

/-- Reads a node. The numbers here and below bound the nodes and parts of nodes still to be read. -/
def node (position : Position) : Nat → Read Yaml
  | 0 => failure
  | n + 1 => do
    match ← peek with
    | some (.reference name) =>
      advance
      target name
    | _ =>
      let (name, tag) ← properties
      anchored name do
        match ← peek, position with
        | some .blockEntry, .entry => return .sequence tag (← blockItems .entry n)
        | some (.scalar text plain), _ =>
          advance
          return .scalar ⟨text, plain, scalarTag tag⟩
        | some (.flowStart .sequence), _ =>
          advance
          return .sequence tag (← flowItems true n)
        | some (.flowStart .mapping), _ =>
          advance
          return .mapping tag (← flowEntries true n)
        | l, _ =>
          if l = some (.blockStart .sequence) ∧ position ≠ .flow then
            advance
            return .sequence tag (← blockItems .block n)
          else if l = some (.blockStart .mapping) ∧ position ≠ .flow then
            advance
            return .mapping tag (← blockEntries n)
          else if name.isSome ∨ tag.isSome then return blank tag
          else failure

/-- Reads the items of a block sequence. -/
def blockItems (position : Position) : Nat → Read (List Yaml)
  | 0 => failure
  | n + 1 => do
    match ← peek, position with
    | some .blockEntry, _ =>
      advance
      let y ← unlessEnded (endsItem position) (node .block n)
      return y :: (← blockItems position n)
    | _, .entry => return []
    | _, _ =>
      expect .blockEnd
      return []

/-- Reads the entries of a block mapping. -/
def blockEntries : Nat → Read (List (Yaml × Yaml))
  | 0 => failure
  | n + 1 => do
    match ← peek with
    | some .key =>
      advance
      let name ← unlessEnded endsEntry (node .entry n)
      let y ← valueIfAny (unlessEnded endsEntry (node .entry n))
      return (name, y) :: (← blockEntries n)
    | _ =>
      expect .blockEnd
      return []

/-- Reads the items of a flow sequence; one that is an entry is a mapping of its own. -/
def flowItems (first : Bool) : Nat → Read (List Yaml)
  | 0 => failure
  | n + 1 => do
    separator first .sequence
    match ← peek with
    | some (.flowEnd .sequence) =>
      advance
      return []
    | some .key =>
      advance
      let name ← unlessEnded (endsFlow .sequence) (node .flow n)
      let y ← valueIfAny (unlessEnded (endsFlow .sequence) (node .flow n))
      return .mapping none [(name, y)] :: (← flowItems false n)
    | _ =>
      let y ← node .flow n
      return y :: (← flowItems false n)

/-- Reads the entries of a flow mapping; a node alone is a name. -/
def flowEntries (first : Bool) : Nat → Read (List (Yaml × Yaml))
  | 0 => failure
  | n + 1 => do
    separator first .mapping
    match ← peek with
    | some (.flowEnd .mapping) =>
      advance
      return []
    | some .key =>
      advance
      let name ← unlessEnded (endsFlow .mapping) (node .flow n)
      let y ← valueIfAny (unlessEnded (endsFlow .mapping) (node .flow n))
      return (name, y) :: (← flowEntries false n)
    | _ =>
      let name ← node .flow n
      return (name, nothing) :: (← flowEntries false n)

end

/-! ### Documents -/

/-- The shorthands that need no directive. -/
def standardShorthands : List (String × String) := [("!", "!"), ("!!", "tag:yaml.org,2002:")]

/-- Reads the directives of a document: one version that is known, and a shorthand once. -/
def directives (versioned : Bool) (shorthands : List (String × String)) : List Lexeme → Read Unit
  | .version major minor :: rest => do
    guard (!versioned ∧ major = 1 ∧ (minor = 1 ∨ minor = 2))
    directives true shorthands rest
  | .shorthand handle expansion :: rest => do
    guard (shorthands.lookup handle).isNone
    directives versioned ((handle, expansion) :: shorthands) rest
  | rest => set (Source.mk rest [] [] (shorthands ++ standardShorthands))

/-- What the content of a document that has been begun explicitly ends at. -/
def endsDocument : Option Lexeme → Bool
  | none | some (.version ..) | some (.shorthand ..) | some .documentStart | some .documentEnd => true
  | _ => false

/-- Whether a document begins with its node. -/
def isBare : Option Lexeme → Bool
  | some (.version ..) | some (.shorthand ..) | some .documentStart => false
  | _ => true

/-- Reads the only document of a text; none if nothing is written. -/
def document (n : Nat) : Read (Option Document) := do
  let lexemes := (← get).lexemes
  if lexemes = [] then return none
  directives false [] lexemes
  let y ←
    if isBare lexemes.head? then node .block n
    else do
      expect .documentStart
      unlessEnded endsDocument (node .block n)
  let s ← get
  guard (s.lexemes.all (· = .documentEnd))
  return some ⟨y, s.anchored.filterMap fun (anchor, y) => y.map (anchor, ·)⟩

end Read

/-- Reads a text as a document; none inside if nothing is written. Between two lexemes, two nodes or parts of nodes
begin at most. -/
def document? (text : String) : Option (Option Document) := do
  let lexemes ← lexemes? text
  return (← Read.document (2 * lexemes.length + 2) ⟨lexemes, [], [], []⟩).1

end Mishap.Yaml
