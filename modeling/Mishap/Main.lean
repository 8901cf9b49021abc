import Mishap.Command.Run

/-!
The program: it reads the files that a command names, prints its output, reports what went wrong and exits.
-/

open Mishap

def readFile? (path : String) : IO (Option String) := do
  try return some (← IO.FS.readFile path)
  catch _ => return none

/-- The files that a command line names, those that can be read. -/
def readFiles (arguments : List String) : IO (List (String × String)) :=
  match Request.ofCommandLine arguments with
  | .ok (.run command) => command.paths.filterMapM fun path => do
    return (← readFile? path).map fun text => (path, text)
  | _ => return []

def report (ending : Ending) : IO Unit := do
  for code in ending.code? do IO.eprintln code
  for message in ending.message? do IO.eprintln message

def main (arguments : List String) : IO UInt32 := do
  let files ← readFiles arguments
  let outcome := runCommandLine (fun path => files.lookup path) arguments
  IO.print outcome.output
  report outcome.ending
  return .ofNat outcome.exitCode
