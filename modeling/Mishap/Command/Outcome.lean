import Mishap.Command.Inputs
import Mishap.Command.Request

/-!
What a run of the command line leaves behind.
-/

namespace Mishap

/-- How a run ended: well, with a problem of the format string, with data that could not be loaded, with arguments that
make no sense, or in the middle of its work. -/
inductive Ending
  | success
  | problem (error : TemplateError)
  | unloaded (fault : CommandFault)
  | misused (fault : ArgumentFault)
  | broken (message : String)

namespace Ending

def exitCode : Ending → Nat
  | success => 0
  | problem _ => 1
  | unloaded _ => 2
  | misused _ => 2
  | broken _ => 101

/-- The code of the diagnostic that is reported, if it has one. -/
def code? : Ending → Option String
  | problem error => some error.code
  | unloaded fault => some fault.code
  | _ => none

/-- The text that is reported. -/
def message? : Ending → Option String
  | success => none
  | problem error => some error.message
  | unloaded fault => some fault.message
  | misused fault => some fault.message
  | broken message => some message

end Ending

/-- What is printed, and how the run ended. -/
structure Outcome where
  output : String
  ending : Ending

namespace Outcome

def exitCode (outcome : Outcome) : Nat := outcome.ending.exitCode

/-- Prints a line and ends well. -/
def printed (line : String) : Outcome := ⟨line ++ "\n", .success⟩

/-- Prints nothing. -/
def silent (ending : Ending) : Outcome := ⟨"", ending⟩

end Outcome

end Mishap
