import Mishap.Json.Parser
import Mishap.Json.Printer
import Mishap.Params

/-!
Values and parameter maps as JSON. JSON has one kind of number where values have three, and no bytes: a whole number is
read as a signed integer if it fits, bytes are written as an array of numbers, and a number that is not finite is
written as null.
-/

namespace Mishap

namespace Value

def jsonOfByte (b : UInt8) : Json := .integer b.toNat

mutual

def toJson : Value → Json
  | nil => .null
  | bool b => .bool b
  | int n => .integer n.toInt
  | uint n => .integer n.toNat
  | float x => if x.ratio?.isSome then .float x else .null
  | text s => .text s
  | list items => .array (toJsonItems items)
  | map entries => .object (toJsonEntries entries)
  | bytes content => .array (content.map jsonOfByte)
termination_by structural v => v

def toJsonItems : List Value → List Json
  | [] => []
  | v :: rest => v.toJson :: toJsonItems rest
termination_by structural items => items

def toJsonEntries : List (String × Value) → List (String × Json)
  | [] => []
  | (name, v) :: rest => (name, v.toJson) :: toJsonEntries rest
termination_by structural entries => entries

end

end Value

namespace Json

mutual

/-- The value that a tree stands for. Of members with one name the last one counts. -/
def toValue : Json → Value
  | null => .nil
  | bool b => .bool b
  | integer n => .ofInteger n
  | float x => .float x
  | text s => .text s
  | array items => .list (toValues items)
  | object members => .map (Entries.ofList (toEntries members))
termination_by structural j => j

def toValues : List Json → List Value
  | [] => []
  | j :: rest => j.toValue :: toValues rest
termination_by structural items => items

def toEntries : List (String × Json) → List (String × Value)
  | [] => []
  | (name, j) :: rest => (name, j.toValue) :: toEntries rest
termination_by structural members => members

end

end Json

def Value.ofJsonText? (text : String) : Option Value := (Json.ofText? text).map Json.toValue

def Value.jsonText (v : Value) : String := v.toJson.render

namespace Params

/-- A parameter map is read from an object. -/
def ofJson? : Json → Option Params
  | .object members => some (ofList (Json.toEntries members))
  | _ => none

def ofJsonText? (text : String) : Option Params := (Json.ofText? text).bind ofJson?

def jsonText (params : Params) : String := params.toValue.jsonText

end Params

end Mishap
