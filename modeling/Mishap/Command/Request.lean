import Mishap.Command
import Mishap.Command.Argument

/-!
Reading a command line. Arguments are read from the first to the last, and the first one that is wrong, or that asks for
help or the version, decides.
-/

namespace Mishap

/-- The names of the commands. -/
inductive CommandName
  | tokens
  | tree
  | check
  | render
  deriving DecidableEq, Repr

def CommandName.ofText? : String → Option CommandName
  | "tokens" => some .tokens
  | "ast" => some .tree
  | "check" => some .check
  | "render" => some .render
  | _ => none

/-- The options that take a value. -/
inductive OptionName
  | level
  | params
  | assignment
  | passed
  | cause
  deriving DecidableEq, Repr

namespace OptionName

def ofText? : String → Option OptionName
  | "level" => some .level
  | "params" => some .params
  | "set" => some .assignment
  | "passed" => some .passed
  | "cause" => some .cause
  | _ => none

/-- The commands that an option belongs to. -/
def isFor : OptionName → CommandName → Bool
  | level, command => command == .check
  | _, command => command == .check || command == .render

end OptionName

/-- What is wrong with a command line. -/
inductive ArgumentFault
  | unknownCommand (text : String)
  | missingCommand
  | unexpected (argument : String)
  | missingFormat
  | missingValue (argument : String)
  | badValue (argument : String)
  | repeated (argument : String)
  deriving DecidableEq, Repr

def ArgumentFault.message : ArgumentFault → String
  | unknownCommand text => "unrecognized subcommand '" ++ text ++ "'"
  | missingCommand => "a subcommand is required"
  | unexpected argument => "unexpected argument '" ++ argument ++ "'"
  | missingFormat => "a format string is required"
  | missingValue argument => "a value is required for '" ++ argument ++ "'"
  | badValue argument => "invalid value for '" ++ argument ++ "'"
  | repeated argument => "'" ++ argument ++ "' cannot be used multiple times"

/-- What a command line asks for. -/
inductive Request
  | run (command : Command)
  | help
  | version
  deriving DecidableEq, Repr

abbrev Parsed (α : Type) := Except ArgumentFault α

def Level.ofText? : String → Option Level
  | "syntax" => some .syntactic
  | "own" => some .own
  | "passed" => some .passed
  | _ => none

/-- The arguments of a command that have been read. -/
structure Given where
  format : Option String
  level : Option Level
  sources : Sources

namespace Given

def empty : Given := ⟨none, none, ⟨none, [], none, none⟩⟩

def addFormat (given : Given) (format : String) : Parsed Given :=
  if given.format.isSome then .error (.unexpected format) else .ok { given with format := some format }

def addLevel (given : Given) (argument value : String) : Parsed Given :=
  match Level.ofText? value with
  | none => .error (.badValue argument)
  | some level =>
    if given.level.isSome then .error (.repeated argument) else .ok { given with level := some level }

/-- The value of an option that is given once. -/
def once (argument : String) (present : Option String) (value : String) : Parsed (Option String) :=
  if present.isSome then .error (.repeated argument) else .ok (some value)

/-- The name of a file, which is not empty. -/
def onceFile (argument : String) (present : Option String) (value : String) : Parsed (Option String) :=
  if value = "" then .error (.badValue argument) else once argument present value

/-- Adds the value of an option; only assignments can be repeated. -/
def addOption (given : Given) (option : OptionName) (argument value : String) : Parsed Given :=
  let sources := given.sources
  match option with
  | .level => given.addLevel argument value
  | .params => do
    let params ← onceFile argument sources.params value
    return { given with sources := { sources with params := params } }
  | .assignment =>
    .ok { given with sources := { sources with assignments := sources.assignments ++ [value] } }
  | .passed => do
    let passed ← onceFile argument sources.passed value
    return { given with sources := { sources with passed := passed } }
  | .cause => do
    let cause ← once argument sources.cause value
    return { given with sources := { sources with cause := cause } }

/-- The request made by all arguments of a command. -/
def toRequest (given : Given) (name : CommandName) : Parsed Request :=
  match given.format with
  | none => .error .missingFormat
  | some format =>
    .ok (.run (match name with
      | .tokens => .tokens format
      | .tree => .tree format
      | .check => .check format (given.level.getD .own) given.sources
      | .render => .render format given.sources))

end Given

namespace Request

/-- Reads short options; none if all of them only change what is logged. -/
def ofLetters (argument : String) (versioned : Bool) : List Char → Parsed (Option Request)
  | [] => .ok none
  | 'v' :: rest => ofLetters argument versioned rest
  | 'h' :: _ => .ok (some help)
  | 'V' :: _ => if versioned then .ok (some version) else .error (.unexpected argument)
  | _ => .error (.unexpected argument)

/-- Reads a long option without a value. -/
def ofFlag (argument name : String) (versioned : Bool) : Parsed (Option Request) :=
  if name = "verbose" then .ok none
  else if name = "help" then .ok (some help)
  else if name = "version" ∧ versioned then .ok (some version)
  else .error (.unexpected argument)

/-- Reads the arguments behind the name of a command. -/
def ofArguments (name : CommandName) (given : Given) : List String → Parsed Request
  | [] => given.toRequest name
  | argument :: rest =>
    match Argument.ofText argument with
    | .word text => do ofArguments name (← given.addFormat text) rest
    | .onlyWords => do (← rest.foldlM Given.addFormat given).toRequest name
    | .short letters => do
      match ← ofLetters argument false letters with
      | some request => return request
      | none => ofArguments name given rest
    | .long text attached =>
      match (OptionName.ofText? text).filter (·.isFor name), attached, rest with
      | some option, some value, rest => do ofArguments name (← given.addOption option argument value) rest
      | some option, none, next :: rest =>
        match Argument.ofText next with
        | .word value => do ofArguments name (← given.addOption option argument value) rest
        | _ => .error (.missingValue argument)
      | some _, none, [] => .error (.missingValue argument)
      | none, some _, _ => .error (.unexpected argument)
      | none, none, rest => do
        match ← ofFlag argument text false with
        | some request => return request
        | none => ofArguments name given rest

/-- Reads the arguments behind `help`: nothing, or the name of one command. -/
def ofTopic : List String → Parsed Request
  | [] => .ok help
  | topic :: rest =>
    if topic ≠ "help" ∧ CommandName.ofText? topic = none then .error (.unknownCommand topic)
    else
      match rest with
      | [] => .ok help
      | next :: _ => .error (.unknownCommand next)

/-- Reads a command line. -/
def ofCommandLine : List String → Parsed Request
  | [] => .error .missingCommand
  | argument :: rest =>
    match Argument.ofText argument with
    | .word text =>
      match CommandName.ofText? text with
      | some name => ofArguments name .empty rest
      | none => if text = "help" then ofTopic rest else .error (.unknownCommand text)
    | .short letters => do
      match ← ofLetters argument true letters with
      | some request => return request
      | none => ofCommandLine rest
    | .long text none => do
      match ← ofFlag argument text true with
      | some request => return request
      | none => ofCommandLine rest
    | _ => .error (.unexpected argument)

end Request

end Mishap
