import Mishap.Fault

/-!
The full text of a fault: every link with all it holds.
-/

namespace Mishap.Fault

def describedFields (name : String) (fields : List (String × String)) : String :=
  name ++ " \x7b " ++ ", ".intercalate (fields.map fun field => field.1 ++ ": " ++ field.2) ++ " \x7d"

def describedForeign (message cause : String) : String :=
  describedFields "Foreign" [("message", Text.quoted message), ("source", cause)]

def describedAnnotated (template : Template) (params : Params) (message cause : String) : String :=
  describedFields "AnnotatedError"
    [("message", Text.quoted message), ("format", Text.quoted template.format), ("params", params.describe),
      ("cause", cause)]

def describedSome (text : String) : String := "Some(" ++ text ++ ")"

def describe : Fault → Verb.Formatted String
  | .io _ error => .ok error.describe
  | .foreign _ message none => .ok (describedForeign message "None")
  | .foreign _ message (some c) => return describedForeign message (describedSome (← c.describe))
  | .annotated id template params none =>
    return describedAnnotated template params (← (annotated id template params none).message) "None"
  | .annotated id template params (some c) => do
    let message ← (annotated id template params (some c)).message
    return describedAnnotated template params message (describedSome (← c.describe))
  | .boxed inner => return "Incomparable(" ++ (← inner.describe) ++ ")"
termination_by structural f => f

end Mishap.Fault
