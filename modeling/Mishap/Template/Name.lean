import Mishap.Params
import Mishap.Text.Letter
import Mishap.Text.Numeral

/-!
Names inside directives: field names, the names that select a whole map, and the conditions on a map.
-/

namespace Mishap

/-- Names that select the entire map instead of a single field. -/
def mapSelectors : List String := ["m", "map", "parameters", "params"]

def isMapSelector (name : String) : Bool := mapSelectors.contains name

/-- A letter, then letters, numerals and underscores. -/
def isFieldName (name : String) : Bool :=
  match name.toList with
  | [] => false
  | first :: rest =>
    Text.isLetter first && rest.all fun c => Text.isLetter c || Text.isNumeral c || c == '_'

/-- A condition on a parameter map. -/
inductive Condition
  | emptyMap
  | nonEmptyMap
  deriving DecidableEq, Repr

namespace Condition

/-- A selector followed by `=0` or `>0`. -/
def ofComparison? (text : List Char) : Option Condition :=
  match text.reverse with
  | '0' :: '=' :: selector =>
    if isMapSelector (String.ofList selector.reverse) then some emptyMap else none
  | '0' :: '>' :: selector =>
    if isMapSelector (String.ofList selector.reverse) then some nonEmptyMap else none
  | _ => none

def ofText? (text : String) : Option Condition :=
  if text = "EmptyMap" then some emptyMap
  else if text = "NonEmptyMap" then some nonEmptyMap
  else ofComparison? text.toList

def holds (condition : Condition) (params : Params) : Bool :=
  match condition with
  | emptyMap => params.isEmpty
  | nonEmptyMap => !params.isEmpty

end Condition

end Mishap
