import Mishap.Params
import Mishap.Template.Problem

/-!
Failures of the operations on data: a problem in a format string, a field that a record needs and does not get, and
two different values for one name.
-/

namespace Mishap

inductive DataError
  | template (error : TemplateError)
  | missingField (name : String) (expected : Kind)
  | typeMismatch (name : String) (expected found : Kind)
  | mergeConflict (conflict : Params.Conflict)

namespace DataError

def message : DataError → String
  | template error => error.message
  | missingField name expected =>
    "field '" ++ name ++ "' (" ++ expected.name ++ ") is not present in the error's data"
  | typeMismatch name expected found =>
    "field '" ++ name ++ "' holds a " ++ found.name ++ " value where " ++ expected.name ++ " is required"
  | mergeConflict c =>
    "conflicting values for '" ++ c.name ++ "': " ++ c.existing.display ++ " from the cause, " ++
      c.incoming.display ++ " from the new data"

def code : DataError → String
  | template error => error.code
  | missingField .. => "errdata::data::missing_field"
  | typeMismatch .. => "errdata::data::type_mismatch"
  | mergeConflict _ => "errdata::data::merge_conflict"

def help? : DataError → Option String
  | template error => error.problem.help?
  | missingField .. =>
    some "attach the field when building the error, or project with Flag::MissingDataAsZero"
  | typeMismatch .. => none
  | mergeConflict _ =>
    some "pass Flag::PreferPreviousData or Flag::ReplacePreviousData to resolve conflicts"

end DataError

end Mishap
