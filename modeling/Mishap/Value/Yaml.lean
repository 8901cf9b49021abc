import Mishap.Params
import Mishap.Yaml.Document
import Mishap.Yaml.Scalar

/-!
Values and parameter maps from YAML. Collections are nested to a fixed depth, and references may only be followed so
often that a text cannot stand for something very much larger than it is.
-/

namespace Mishap

namespace Yaml

/-- Reading a value while a number of references may still be followed. -/
abbrev Resolve := StateT Nat Option

/-- The node itself, or the anchored one that a reference stands for. -/
def resolve (anchored : List (Nat × Yaml)) : Yaml → Resolve Yaml
  | reference anchor => do
    match ← get with
    | 0 => failure
    | n + 1 =>
      set n
      anchored.lookup anchor
  | y => return y

/-- Text, as names are. -/
def textOf? : Value → Option String
  | .text s => some s
  | _ => none

/-- An entry inside of a value, whose name is text by itself. -/
def entryWith (inner : Yaml → Resolve Value) (entry : Yaml × Yaml) : Resolve (String × Value) := do
  let name ← inner entry.1
  return (← textOf? name, ← inner entry.2)

/-- The value that a node stands for, given those inside of it. Of entries with one name the last one counts. A node
with a local tag stands for none. -/
def valueWith (anchored : List (Nat × Yaml)) (inner : Yaml → Resolve Value) (y : Yaml) : Resolve Value := do
  match ← resolve anchored y with
  | scalar s => s.toValue?
  | sequence tag items =>
    guard (!isLocal tag)
    return .list (← items.mapM inner)
  | mapping tag entries =>
    guard (!isLocal tag)
    return .map (Entries.ofList (← entries.mapM (entryWith inner)))
  | reference _ => failure

/-- The value that a node stands for, collections being nested to a depth at most. -/
def toValue (anchored : List (Nat × Yaml)) : Nat → Yaml → Resolve Value
  | 0, y => do
    match ← resolve anchored y with
    | scalar s => s.toValue?
    | _ => failure
  | depth + 1, y => valueWith anchored (toValue anchored depth) y

/-- The depth of nested collections. -/
def deepest : Nat := 128

/-- How many references may be followed for every node of a text, collections counting twice. -/
def referencesPerNode : Nat := 100

/-- An entry of the outermost mapping. Its name is the text of a scalar, whatever that stands for. -/
def toOwnEntry (anchored : List (Nat × Yaml)) (entry : Yaml × Yaml) : Resolve (String × Value) := do
  match ← resolve anchored entry.1 with
  | scalar s => return (s.text, ← toValue anchored (deepest - 1) entry.2)
  | _ => failure

end Yaml

namespace Params

/-- Reads a document that is a mapping, or nothing. -/
def ofYaml? (document : Yaml.Document) : Option Params :=
  match document.root with
  | .mapping _ entries => do
    let (entries, _) ← entries.mapM (Yaml.toOwnEntry document.anchored)
      (Yaml.referencesPerNode * document.root.size)
    return ofList entries
  | .scalar s => if s.plain ∧ s.text = "" then some empty else none
  | _ => none

/-- Reads a text that is a mapping. An empty text is an empty one. -/
def ofYamlText? (text : String) : Option Params := do
  match ← Yaml.document? text with
  | some document => ofYaml? document
  | none => return empty

end Params

end Mishap
