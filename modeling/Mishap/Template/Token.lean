import Mishap.Template.Span
import Mishap.Text.Quoted

/-!
Tokens of a format string. Reading one never fails: a backslash before one of `%`, `$`, braces and backslash, and a
doubled percent sign, stand for a character of text, and every character that belongs to no control sequence is text.
Adjacent text is one token.
-/

namespace Mishap

/-- The parameter map that a directive reads. -/
inductive Scope
  | own
  | passed
  deriving DecidableEq, Repr

/-- The character that opens the directives of a scope. -/
def Scope.sigil : Scope → Char
  | own => '%'
  | passed => '$'

namespace Token

/-- A control sequence: the openings of a field and of a conditional, a wrapped cause, and the two braces. -/
inductive Mark
  | field (scope : Scope)
  | guard (scope : Scope)
  | wrap (scope : Scope)
  | openBrace
  | closeBrace
  deriving DecidableEq, Repr

def Mark.spelling : Mark → String
  | field .own => "%"
  | field .passed => "$"
  | guard .own => "%!"
  | guard .passed => "$!"
  | wrap .own => "%w"
  | wrap .passed => "$w"
  | openBrace => "\x7b"
  | closeBrace => "\x7d"

/-- What a token stands for; a list of tokens is framed by `start` and `stop`. -/
inductive Kind
  | start
  | stop
  | text (s : String)
  | mark (m : Mark)
  deriving DecidableEq, Repr

/-- The text a token stands for when it is not interpreted. -/
def Kind.spelling : Kind → String
  | start => ""
  | stop => ""
  | text s => s
  | mark m => m.spelling

/-- The token as a diagnostic names it. -/
def Kind.describe : Kind → String
  | start => "start of input"
  | stop => "end of input"
  | text s => "text " ++ Text.quoted s
  | mark m => "'" ++ m.spelling ++ "'"

end Token

/-- A token and the bytes of the format string it was read from. -/
structure Token where
  kind : Token.Kind
  span : Span
  deriving DecidableEq, Repr

namespace Token

/-! ### Lexemes -/

/-- The shortest parts a format string is read in: one character of text, or a control sequence. -/
inductive Lexeme
  | literal (c : Char) (width : Nat)
  | mark (m : Mark)
  deriving DecidableEq, Repr

/-- The bytes a lexeme was read from. -/
def Lexeme.width : Lexeme → Nat
  | literal _ width => width
  | mark m => m.spelling.utf8ByteSize

/-- The characters that a backslash turns into text. -/
def isControl (c : Char) : Bool :=
  c == '%' || c == '$' || c == '{' || c == '}' || c == '\\'

/-- The longest control sequence or escape wins. -/
def lexemes : List Char → List Lexeme
  | [] => []
  | '\\' :: c :: rest =>
    if isControl c then .literal c 2 :: lexemes rest
    else .literal '\\' 1 :: lexemes (c :: rest)
  | '%' :: '%' :: rest => .literal '%' 2 :: lexemes rest
  | '%' :: '!' :: rest => .mark (.guard .own) :: lexemes rest
  | '$' :: '!' :: rest => .mark (.guard .passed) :: lexemes rest
  | '%' :: 'w' :: rest => .mark (.wrap .own) :: lexemes rest
  | '$' :: 'w' :: rest => .mark (.wrap .passed) :: lexemes rest
  | '%' :: rest => .mark (.field .own) :: lexemes rest
  | '$' :: rest => .mark (.field .passed) :: lexemes rest
  | '{' :: rest => .mark .openBrace :: lexemes rest
  | '}' :: rest => .mark .closeBrace :: lexemes rest
  | c :: rest => .literal c c.utf8Size :: lexemes rest

/-! ### Joining text -/

/-- The text read so far, its last character first, and where it began. -/
structure Run where
  chars : List Char
  start : Nat

/-- The token of a run of text that ends at `position`, if there is one. -/
def Run.token? (run : Option Run) (position : Nat) : List Token :=
  match run with
  | some run => [⟨.text (String.ofList run.chars.reverse), ⟨run.start, position⟩⟩]
  | none => []

/-- The tokens of lexemes that begin at `position`, after the text in `run`. -/
def ofLexemes (position : Nat) (run : Option Run) : List Lexeme → List Token
  | [] => Run.token? run position ++ [⟨.stop, ⟨position, position⟩⟩]
  | lexeme :: rest =>
    let next := position + lexeme.width
    match lexeme with
    | .literal c _ =>
      let run := match run with
        | some run => { run with chars := c :: run.chars }
        | none => ⟨[c], position⟩
      ofLexemes next (some run) rest
    | .mark m =>
      Run.token? run position ++ ⟨.mark m, ⟨position, next⟩⟩ :: ofLexemes next none rest

/-- The tokens of a format string. -/
def scan (format : String) : List Token :=
  ⟨.start, ⟨0, 0⟩⟩ :: ofLexemes 0 none (lexemes format.toList)

end Token

end Mishap
