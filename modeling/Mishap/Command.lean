import Mishap.Template.Check

/-!
The commands: showing how a format string is read, checking it, and rendering it.
-/

namespace Mishap

/-- Where the data for checking or rendering comes from: a file with the own parameters, assignments of single ones, a
file with the passed parameters, and the message of a cause. -/
structure Sources where
  params : Option String
  assignments : List String
  passed : Option String
  cause : Option String
  deriving DecidableEq, Repr

inductive Command
  | tokens (format : String)
  | tree (format : String)
  | check (format : String) (level : Level) (sources : Sources)
  | render (format : String) (sources : Sources)
  deriving DecidableEq, Repr

namespace Command

def sources? : Command → Option Sources
  | check _ _ sources => some sources
  | render _ sources => some sources
  | _ => none

/-- The files that the command reads. -/
def paths (command : Command) : List String :=
  match command.sources? with
  | some sources => sources.params.toList ++ sources.passed.toList
  | none => []

end Command

end Mishap
