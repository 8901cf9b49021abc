import Mishap.Template.Check
import Mishap.Template.Parser

/-!
Templates: format strings that have been read. Reading never fails: a malformed format string has a tree like any
other, and its first problem is kept.
-/

namespace Mishap

/-- A format string together with what it reads as. -/
structure Template where
  format : String
  parsed : ParsedTemplate
  parsed_eq : parsed = ParsedTemplate.ofTokens format (Token.scan format)

namespace Template

def ofFormat (format : String) : Template := ⟨format, _, rfl⟩

theorem eq_ofFormat (t : Template) : t = ofFormat t.format := by
  obtain ⟨format, parsed, h⟩ := t
  subst h
  rfl

@[ext] theorem ext_format {a b : Template} (h : a.format = b.format) : a = b := by
  rw [a.eq_ofFormat, b.eq_ofFormat, h]

def tokens (t : Template) : List Token := Token.scan t.format

def root (t : Template) : Node := t.parsed.root

/-- The first problem found while reading, if any. -/
def error? (t : Template) : Option TemplateError := t.parsed.error

/-- Checks the template at a level. A malformed format string fails at every level. -/
def verify (t : Template) (level : Level) (setting : Setting) : Except TemplateError Unit :=
  match t.error? with
  | some error => .error error
  | none =>
    match t.root.check level setting true with
    | .ok () => .ok ()
    | .error found => .error ⟨found.problem, t.format, found.span⟩

/-- Checks verbs, field names and conditions. -/
def verifySyntax (t : Template) : Except TemplateError Unit := t.verify .syntactic ⟨.empty, .empty, none⟩

/-- Checks that every visible directive of the own scope gets what it asks for. -/
def verifyOwn (t : Template) (own : Params) (cause : Option Voice) : Except TemplateError Unit :=
  t.verify .own ⟨own, .empty, cause⟩

/-- Checks that every visible directive gets what it asks for. -/
def verifyPassed (t : Template) (own passed : Params) (cause : Option Voice) : Except TemplateError Unit :=
  t.verify .passed ⟨own, passed, cause⟩

/-- The message of the template. -/
def render (t : Template) (own passed : Params) (cause : Option Voice) : Verb.Formatted String :=
  t.root.render ⟨own, passed, cause⟩

/-- The template with its tree and its first problem. -/
def describe (t : Template) : String :=
  let error := match t.error? with
    | some error => "Some(" ++ Text.quoted error.message ++ ")"
    | none => "None"
  "Template \x7b format: " ++ Text.quoted t.format ++ ", ast: " ++ Text.quoted t.root.prettyRoot ++
    ", parse_error: " ++ error ++ " \x7d"

end Template

end Mishap
