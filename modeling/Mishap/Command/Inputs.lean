import Mishap.Command
import Mishap.Command.Argument
import Mishap.Value.Json
import Mishap.Value.Yaml

/-!
The data for checking or rendering a format string, loaded from the sources that a command names. The own parameters are
those of a file with the assignments on top; the passed parameters are the own ones unless there is a file for them.
-/

namespace Mishap

/-- Why a command that is well formed cannot be carried out. -/
inductive CommandFault
  | unreadable (path : String)
  | notJson (path : String)
  | notYaml (path : String)
  | notAssignment (text : String)
  | emptyFormat
  deriving DecidableEq, Repr

namespace CommandFault

def code : CommandFault → String
  | unreadable _ => "errdata::cli::io"
  | notJson _ => "errdata::cli::json"
  | notYaml _ => "errdata::cli::yaml"
  | notAssignment _ => "errdata::cli::assignment"
  | emptyFormat => "errdata::cli::empty_format"

def message : CommandFault → String
  | unreadable path => "cannot read " ++ path
  | notJson path => path ++ " is not a valid JSON parameter map"
  | notYaml path => path ++ " is not a valid YAML parameter map"
  | notAssignment text => "'" ++ text ++ "' is not a KEY=VALUE assignment"
  | emptyFormat => "an empty format string needs --cause"

end CommandFault

/-! ### Files -/

/-- The last name in a path. -/
def fileName? (path : String) : Option String :=
  (((path.splitOn "/").filter fun name => name ≠ "" ∧ name ≠ ".").getLast?).filter (· ≠ "..")

/-- What follows the last point in a file name, unless the point is its first character. -/
def fileExtension? (path : String) : Option String :=
  (fileName? path).bind fun name =>
    match (name.splitOn ".").reverse with
    | [] | [_] | [_, ""] => none
    | last :: _ => some last

/-- YAML is told from JSON by the extension. -/
def isYamlPath (path : String) : Bool := fileExtension? path = some "yaml" || fileExtension? path = some "yml"

/-- The parameter map that a text holds. -/
def decodeParams (path text : String) : Except CommandFault Params :=
  if isYamlPath path then
    match Params.ofYamlText? text with
    | some params => .ok params
    | none => .error (.notYaml path)
  else
    match Params.ofJsonText? text with
    | some params => .ok params
    | none => .error (.notJson path)

/-- The parameter map of a file, if `read` finds one. -/
def loadParams (read : String → Option String) (path : String) : Except CommandFault Params :=
  match read path with
  | some text => decodeParams path text
  | none => .error (.unreadable path)

/-! ### Assignments -/

/-- A name and its value. The value is read as JSON, and is text if it is none. -/
def assignment? (text : String) : Option (String × Value) :=
  match splitAssignment? text.toList with
  | some (c :: name, rest) =>
    let value := String.ofList rest
    some (String.ofList (c :: name), (Value.ofJsonText? value).getD (.text value))
  | _ => none

def assign (params : Params) (text : String) : Except CommandFault Params :=
  match assignment? text with
  | some (name, v) => .ok (params.insert name v)
  | none => .error (.notAssignment text)

/-! ### Inputs -/

structure Inputs where
  own : Params
  passed : Params
  cause : Option String

/-- Loads what the sources name, `load` giving the parameter map of a file. -/
def Inputs.ofSources (load : String → Except CommandFault Params) (sources : Sources) :
    Except CommandFault Inputs := do
  let base ← match sources.params with
    | some path => load path
    | none => .ok .empty
  let own ← sources.assignments.foldlM assign base
  let passed ← match sources.passed with
    | some path => load path
    | none => .ok own
  return ⟨own, passed, sources.cause⟩

end Mishap
