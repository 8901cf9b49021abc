/-!
YAML texts as trees.
-/

namespace Mishap

/-- A YAML scalar: its text, whether it was written without quotes, and its tag. -/
structure Yaml.Scalar where
  text : String
  plain : Bool
  tag : Option String
  deriving DecidableEq, Repr

/-- A YAML node. The entries of a mapping keep their order and may repeat a name; a reference stands for the anchored
node of its number. -/
inductive Yaml
  | scalar (s : Yaml.Scalar)
  | sequence (tag : Option String) (items : List Yaml)
  | mapping (tag : Option String) (entries : List (Yaml × Yaml))
  | reference (anchor : Nat)

namespace Yaml

instance : Inhabited Yaml := ⟨.sequence none []⟩

/-- What stands where nothing but a tag was written. -/
def blank (tag : Option String) : Yaml := .scalar ⟨"", true, tag⟩

/-- What stands where nothing was written. -/
def nothing : Yaml := blank none

/-- The two kinds of collection. -/
inductive Shape
  | sequence
  | mapping
  deriving DecidableEq, Repr

mutual

/-- The size of the written form: collections count at both ends, references do not count their targets. -/
def size : Yaml → Nat
  | scalar _ => 1
  | sequence _ items => 2 + sizeOfItems items
  | mapping _ entries => 2 + sizeOfEntries entries
  | reference _ => 1
termination_by structural y => y

def sizeOfItems : List Yaml → Nat
  | [] => 0
  | y :: rest => y.size + sizeOfItems rest
termination_by structural items => items

def sizeOfEntries : List (Yaml × Yaml) → Nat
  | [] => 0
  | (name, y) :: rest => name.size + y.size + sizeOfEntries rest
termination_by structural entries => entries

end

end Yaml

end Mishap
