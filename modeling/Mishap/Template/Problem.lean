import Mishap.Template.Token

/-!
Problems of format strings: what is wrong, at which stage it is found, and how it is reported.
-/

namespace Mishap

/-- The check that finds a problem. Later stages presuppose the earlier ones. -/
inductive Stage
  | parse
  | syntactic
  | ownParameters
  | passedParameters
  deriving DecidableEq, Repr

def Stage.name : Stage → String
  | parse => "parse error"
  | syntactic => "syntax error"
  | ownParameters => "own-parameter error"
  | passedParameters => "passed-parameter error"

/-- The part of a directive header that an opening brace has to follow. -/
inductive HeaderPart
  | verb
  | condition
  deriving DecidableEq, Repr

def HeaderPart.name : HeaderPart → String
  | verb => "format verb"
  | condition => "condition"

/-- What is wrong in a format string: with the order of its tokens, the content of a directive, or the parameters that
a directive needs. -/
inductive Problem
  | unexpectedOpenBrace
  | unmatchedCloseBrace
  | missingCloseBrace
  | expectedVerb (scope : Scope) (found : Token.Kind)
  | expectedCondition (scope : Scope) (found : Token.Kind)
  | expectedOpenBrace (after : HeaderPart) (found : Token.Kind)
  | expectedFieldName (found : Token.Kind)
  | expectedCloseBrace (found : Token.Kind)
  | verbContainsPercent (verb : String)
  | invalidFieldName (name : String)
  | unknownCondition (condition : String)
  | missingOwnField (name : String)
  | wrapWithoutCause
  | missingPassedField (name : String)
  | causeNotInterpolatable
  deriving DecidableEq, Repr

namespace Problem

def stage : Problem → Stage
  | unexpectedOpenBrace | unmatchedCloseBrace | missingCloseBrace | expectedVerb .. | expectedCondition ..
  | expectedOpenBrace .. | expectedFieldName _ | expectedCloseBrace _ => .parse
  | verbContainsPercent _ | invalidFieldName _ | unknownCondition _ => .syntactic
  | missingOwnField _ | wrapWithoutCause => .ownParameters
  | missingPassedField _ | causeNotInterpolatable => .passedParameters

def foundText (found : Token.Kind) : String := ", found " ++ found.describe

def message : Problem → String
  | unexpectedOpenBrace => "unexpected '\x7b' outside of a directive"
  | unmatchedCloseBrace => "unmatched '\x7d'"
  | missingCloseBrace => "missing closing '\x7d' for a conditional"
  | expectedVerb scope found =>
    "expected a format verb or '\x7b' after '" ++ scope.sigil.toString ++ "'" ++ foundText found
  | expectedCondition scope found =>
    "expected a condition after '" ++ scope.sigil.toString ++ "!'" ++ foundText found
  | expectedOpenBrace after found => "expected '\x7b' after the " ++ after.name ++ foundText found
  | expectedFieldName found => "expected a field name" ++ foundText found
  | expectedCloseBrace found => "expected '\x7d' after the field name" ++ foundText found
  | verbContainsPercent verb => "format verb '" ++ verb ++ "' must not contain '%'"
  | invalidFieldName name => "'" ++ name ++ "' is not a valid field name"
  | unknownCondition condition => "unknown condition '" ++ condition ++ "'"
  | missingOwnField name => "field '" ++ name ++ "' is not among the error's own parameters"
  | wrapWithoutCause => "'%w' is used but the error wraps no cause"
  | missingPassedField name => "field '" ++ name ++ "' is not among the passed parameters"
  | causeNotInterpolatable => "'$w' is used but the cause does not support interpolation"

/-- The last part of the diagnostic code. -/
def codeName : Problem → String
  | unexpectedOpenBrace => "unexpected_open_brace"
  | unmatchedCloseBrace => "unmatched_close_brace"
  | missingCloseBrace => "missing_close_brace"
  | expectedVerb .. => "expected_verb"
  | expectedCondition .. => "expected_condition"
  | expectedOpenBrace .. => "expected_open_brace"
  | expectedFieldName _ => "expected_field_name"
  | expectedCloseBrace _ => "expected_close_brace"
  | verbContainsPercent _ => "verb_contains_percent"
  | invalidFieldName _ => "invalid_field_name"
  | unknownCondition _ => "unknown_condition"
  | missingOwnField _ => "missing_own_field"
  | wrapWithoutCause => "wrap_without_cause"
  | missingPassedField _ => "missing_passed_field"
  | causeNotInterpolatable => "cause_not_interpolatable"

/-- What a report writes beside the marked stretch of the format string. -/
def label (problem : Problem) : String :=
  match problem.stage with
  | .parse => "malformed here"
  | .syntactic => "invalid directive"
  | .ownParameters | .passedParameters => "cannot be resolved"

def help? : Problem → Option String
  | unexpectedOpenBrace | unmatchedCloseBrace =>
    some "escape literal braces as '\\\x7b' and '\\\x7d'"
  | expectedVerb .. => some "write '%%' or '\\%' for a literal percent sign"
  | invalidFieldName _ =>
    some ("field names start with a letter and continue with letters, digits or '_'; " ++
      "'m', 'map', 'params' and 'parameters' select the whole map")
  | unknownCondition _ => some "conditions are 'm=0', 'm>0', 'EmptyMap' or 'NonEmptyMap'"
  | causeNotInterpolatable => some "use '%w' to include the cause's plain message"
  | _ => none

end Problem

/-- A problem and the stretch of the format string that it concerns. -/
structure TemplateError where
  problem : Problem
  format : String
  span : Span
  deriving DecidableEq, Repr

namespace TemplateError

def stage (e : TemplateError) : Stage := e.problem.stage

def message (e : TemplateError) : String := "template " ++ e.stage.name ++ ": " ++ e.problem.message

def code (e : TemplateError) : String := "errdata::template::" ++ e.problem.codeName

end TemplateError

end Mishap
