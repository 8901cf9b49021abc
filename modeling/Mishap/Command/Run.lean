import Mishap.Command.Outcome
import Mishap.Fault.Annotate

/-!
Carrying out a command. Checking works on the template, rendering on a fault annotated with it.
-/

namespace Mishap

def padLeft (width : Nat) (text : String) : String :=
  String.ofList (List.replicate (width - text.length) ' ') ++ text

def padRight (width : Nat) (text : String) : String :=
  text ++ String.ofList (List.replicate (width - text.length) ' ')

/-- A token on a line of its own, behind the bytes it was read from. -/
def Token.line (t : Token) : String :=
  let what := match t.kind with
    | .start => "Start"
    | .stop => "End"
    | .text s => "text " ++ Text.quoted s
    | .mark m => m.spelling
  padLeft 4 (naturalText t.span.start) ++ ".." ++ padRight 4 (naturalText t.span.stop) ++ " " ++ what ++ "\n"

namespace Command

def showTokens (format : String) : Outcome :=
  ⟨String.join ((Template.ofFormat format).tokens.map Token.line), .success⟩

def showTree (format : String) : Outcome :=
  let t := Template.ofFormat format
  ⟨t.root.prettyRoot ++ "\n", match t.error? with
    | some error => .problem error
    | none => .success⟩

/-- The cause given on a command line is a failure of an unknown kind. -/
def causeOf (message : String) : Fault := .io 0 ⟨.other, some message⟩

/-- Checks a format string at a level. -/
def verify (level : Level) (t : Template) (inputs : Inputs) : Except TemplateError Unit :=
  let cause := inputs.cause.map fun message => (causeOf message).voice
  match level with
  | .syntactic => t.verifySyntax
  | .own => t.verifyOwn inputs.own cause
  | .passed => t.verifyPassed inputs.own inputs.passed cause

def checkWith (format : String) (level : Level) (inputs : Inputs) : Outcome :=
  match verify level (Template.ofFormat format) inputs with
  | .ok () => .printed "ok"
  | .error error => .silent (.problem error)

/-- The fault whose message is printed. -/
def annotatedWith (format : String) (inputs : Inputs) : Attempt Handle :=
  match inputs.cause with
  | some message => (causeOf message).wrapParams 1 format inputs.own []
  | none => Fault.ofParams 1 format inputs.own

def renderWith (format : String) (inputs : Inputs) : Outcome :=
  if inputs.cause = none ∧ format = "" then .silent (.unloaded .emptyFormat)
  else
    match annotatedWith format inputs with
    | .error (.usage error) => .silent (.broken error.message)
    | .error (.data error) => .silent (.broken error.message)
    | .ok handle =>
      match handle.note.interpolate inputs.passed with
      | .ok message => .printed message
      | .error error => .silent (.broken error.message)

/-- Goes on with the data that the sources give. -/
def withInputs (load : String → Except CommandFault Params) (sources : Sources) (go : Inputs → Outcome) : Outcome :=
  match Inputs.ofSources load sources with
  | .ok inputs => go inputs
  | .error fault => .silent (.unloaded fault)

/-- Carries out a command, `load` giving the parameter map of a file. -/
def run (load : String → Except CommandFault Params) : Command → Outcome
  | tokens format => showTokens format
  | tree format => showTree format
  | check format level sources => withInputs load sources (checkWith format level)
  | render format sources => withInputs load sources (renderWith format)

end Command

namespace Request

def versionText : String := "errdata 0.1.0"

def helpText : String :=
  "Inspect, check and render errdata message templates.\n\nUsage: errdata [-v] <COMMAND>\n\nCommands:\n" ++
    "  tokens FORMAT  Print the tokens of a format string\n" ++
    "  ast FORMAT     Print the syntax tree of a format string\n" ++
    "  check FORMAT   Validate a format string and report the first problem\n" ++
    "  render FORMAT  Render a format string into a message\n\nOptions of check and render:\n" ++
    "  --params FILE    JSON or YAML file with the own parameters\n" ++
    "  --set KEY=VALUE  Set one own parameter\n" ++
    "  --passed FILE    JSON or YAML file with the passed parameters\n" ++
    "  --cause MESSAGE  Message of a plain cause\n" ++
    "  --level LEVEL    How far check goes: syntax, own or passed"

def carryOut (load : String → Except CommandFault Params) : Request → Outcome
  | run command => command.run load
  | help => .printed helpText
  | version => .printed versionText

end Request

/-- Reads a command line and carries it out, `read` giving the text of a file. -/
def runCommandLine (read : String → Option String) (arguments : List String) : Outcome :=
  match Request.ofCommandLine arguments with
  | .ok request => request.carryOut (loadParams read)
  | .error fault => .silent (.misused fault)

end Mishap
