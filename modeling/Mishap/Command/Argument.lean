/-!
Arguments of a command line by their shape.
-/

namespace Mishap

/-- An argument: a word, a long option with its value if one is attached, letters of short options, or the mark that
only words follow. -/
inductive Argument
  | word (text : String)
  | long (name : String) (attached : Option String)
  | short (letters : List Char)
  | onlyWords
  deriving DecidableEq, Repr

/-- Splits a text at its first equals sign. -/
def splitAssignment? : List Char → Option (List Char × List Char)
  | [] => none
  | c :: rest =>
    if c = '=' then some ([], rest)
    else (splitAssignment? rest).map fun (before, after) => (c :: before, after)

/-- A single dash is a word. -/
def Argument.ofText (text : String) : Argument :=
  match text.toList with
  | ['-', '-'] => .onlyWords
  | '-' :: '-' :: body =>
    match splitAssignment? body with
    | some (name, attached) => .long (String.ofList name) (some (String.ofList attached))
    | none => .long (String.ofList body) none
  | '-' :: c :: rest => .short (c :: rest)
  | _ => .word text

end Mishap
