import Mishap.Template.Node
import Mishap.Template.Problem

/-!
Reading tokens as a tree. Every list of tokens gives a tree. At the first token that cannot stand where it stands, the
header read so far becomes text again, the diagnostic is put into the tree, all open conditionals are forced to show
their bodies, and the tokens from that one on are copied as text.
-/

namespace Mishap

/-- What has been read of the header of a directive. -/
inductive Header
  | field (scope : Scope)
  | verb (scope : Scope) (verb : String)
  | brace (scope : Scope) (verb : Option String)
  | name (scope : Scope) (verb : Option String) (name : String)
  | guard (scope : Scope)
  | condition (scope : Scope) (condition : String)
  deriving DecidableEq, Repr

namespace Header

/-- The tokens of the header as text. -/
def spelling : Header → String
  | field scope => scope.sigil.toString
  | verb scope v => scope.sigil.toString ++ v
  | brace scope v? => scope.sigil.toString ++ v?.getD "" ++ "\x7b"
  | name scope v? n => scope.sigil.toString ++ v?.getD "" ++ "\x7b" ++ n
  | guard scope => scope.sigil.toString ++ "!"
  | condition scope c => scope.sigil.toString ++ "!" ++ c

/-- What is wrong with a token that cannot follow the header. -/
def problem (header : Header) (found : Token.Kind) : Problem :=
  match header with
  | field scope => .expectedVerb scope found
  | verb _ _ => .expectedOpenBrace .verb found
  | brace _ _ => .expectedFieldName found
  | name _ _ _ => .expectedCloseBrace found
  | guard scope => .expectedCondition scope found
  | condition _ _ => .expectedOpenBrace .condition found

end Header

/-- An open conditional: its head, and the nodes before it in the block around it, the latest first. -/
structure Frame where
  scope : Scope
  condition : String
  start : Nat
  forced : Bool
  before : List Node

namespace Frame

def force (frame : Frame) : Frame := { frame with forced := true }

def guard (frame : Frame) (stop : Nat) : Guard :=
  ⟨frame.scope, frame.condition, frame.forced, ⟨frame.start, stop⟩⟩

/-- The block around a conditional after it was closed on a body of `items`. -/
def close (frame : Frame) (items : List Node) (stop : Nat) : List Node :=
  .conditional (frame.guard stop) (.list items.reverse) :: frame.before

end Frame

/-- Where reading stands: between directives, inside a header that began at `start`, or copying text after an error. -/
inductive Phase
  | sequence
  | header (header : Header) (start : Nat)
  | halted (error : TemplateError)

/-- The state of reading: the nodes of the innermost block, the latest first, and the open conditionals, the innermost
first. -/
structure Parser where
  phase : Phase
  items : List Node
  frames : List Frame

/-- What becomes of the current token: reading goes on behind it, it is read again, or reading is over. -/
inductive Step
  | advance (next : Parser)
  | again (next : Parser)
  | done (last : Parser)

/-- The text before the message of a diagnostic in a tree. -/
def diagnosticOpening : String := "<!ERROR: "

/-- The text that a problem leaves in a tree. -/
def Problem.diagnostic (problem : Problem) : String := diagnosticOpening ++ problem.message ++ ">"

namespace Parser

def initial : Parser := ⟨.sequence, [], []⟩

def push (parser : Parser) (node : Node) : Parser := { parser with items := node :: parser.items }

def expect (parser : Parser) (header : Header) (start : Nat) : Parser :=
  { parser with phase := .header header start }

/-- The text of a header that is not going to be completed. -/
def abandonHeader (parser : Parser) : Parser :=
  match parser.phase with
  | .header header _ => { parser with phase := .sequence, items := .literal header.spelling :: parser.items }
  | _ => parser

/-- Puts the diagnostic into the tree and forces every open conditional. -/
def fail (format : String) (parser : Parser) (problem : Problem) (span : Span) : Parser :=
  { phase := .halted ⟨problem, format, span⟩
    items := .literal problem.diagnostic :: parser.abandonHeader.items
    frames := parser.frames.map Frame.force }

/-- Reads a token between directives. -/
def stepSequence (format : String) (parser : Parser) (token : Token) : Step :=
  match token.kind with
  | .start => .advance parser
  | .text s => .advance (parser.push (.literal s))
  | .mark (.field scope) => .advance (parser.expect (.field scope) token.span.start)
  | .mark (.guard scope) => .advance (parser.expect (.guard scope) token.span.start)
  | .mark (.wrap scope) => .advance (parser.push (.wrap scope token.span))
  | .mark .openBrace => .again (parser.fail format .unexpectedOpenBrace token.span)
  | .mark .closeBrace =>
    match parser.frames with
    | frame :: outer =>
      .advance { parser with items := frame.close parser.items token.span.stop, frames := outer }
    | [] => .again (parser.fail format .unmatchedCloseBrace token.span)
  | .stop =>
    match parser.frames with
    | frame :: _ => .again (parser.fail format .missingCloseBrace ⟨frame.start, token.span.stop⟩)
    | [] => .done parser

/-- Reads a token inside a header. -/
def stepHeader (format : String) (parser : Parser) (header : Header) (start : Nat) (token : Token) : Step :=
  match header, token.kind with
  | .field scope, .text verb => .advance (parser.expect (.verb scope verb) start)
  | .field scope, .mark .openBrace => .advance (parser.expect (.brace scope none) start)
  | .verb scope verb, .mark .openBrace => .advance (parser.expect (.brace scope (some verb)) start)
  | .brace scope verb, .text name => .advance (parser.expect (.name scope verb name) start)
  | .name scope verb name, .mark .closeBrace =>
    .advance { parser with
      phase := .sequence
      items := .field ⟨scope, verb, name, ⟨start, token.span.stop⟩⟩ :: parser.items }
  | .guard scope, .text condition => .advance (parser.expect (.condition scope condition) start)
  | .condition scope condition, .mark .openBrace =>
    .advance
      { phase := .sequence, items := []
        frames := ⟨scope, condition, start, false, parser.items⟩ :: parser.frames }
  | header, found => .again (parser.fail format (header.problem found) token.span)

/-- Copies a token after an error. -/
def stepHalted (parser : Parser) (token : Token) : Step :=
  match token.kind with
  | .stop => .done parser
  | found => .advance (parser.push (.literal found.spelling))

def step (format : String) (parser : Parser) (token : Token) : Step :=
  match parser.phase with
  | .sequence => parser.stepSequence format token
  | .header header start => parser.stepHeader format header start token
  | .halted _ => parser.stepHalted token

/-- Reads a token, and reads it once more if it broke off what came before it. -/
def settle (format : String) (parser : Parser) (token : Token) : Step :=
  match parser.step format token with
  | .again next => next.step format token
  | step => step

def run (format : String) (parser : Parser) : List Token → Parser
  | [] => parser
  | token :: rest =>
    match parser.settle format token with
    | .advance next => run format next rest
    | .again last | .done last => last

def error? (parser : Parser) : Option TemplateError :=
  match parser.phase with
  | .halted error => some error
  | _ => none

/-- All nodes read, in order; conditionals that are still open end where the format string ends. -/
def nodes (format : String) (parser : Parser) : List Node :=
  let parser := parser.abandonHeader
  (parser.frames.foldl (fun items frame => frame.close items format.utf8ByteSize) parser.items).reverse

end Parser

/-- The tree of a format string and the first problem in it. -/
structure ParsedTemplate where
  root : Node
  error : Option TemplateError

/-- Reads the tokens of `format`, or any others, as a tree. -/
def ParsedTemplate.ofTokens (format : String) (tokens : List Token) : ParsedTemplate :=
  let parser := Parser.initial.run format tokens
  ⟨(Node.list (parser.nodes format)).simplify, parser.error?⟩

end Mishap
