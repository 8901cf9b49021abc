import Mishap.Proofs.Template.Scanning
import Mishap.Template.Node

/-!
Printing a tree as a format string, and the tokens that the printed text begins with.
-/

namespace Mishap

/-! ### Escaped text -/

namespace Token

/-- Text with a backslash before every character that is otherwise read as part of a control sequence. -/
def escape (text : List Char) : List Char := text.flatMap fun c => if isControl c then ['\\', c] else [c]

theorem escape_nil : escape [] = [] := rfl

theorem escape_cons_of_control {c : Char} (h : isControl c = true) (text : List Char) :
    escape (c :: text) = '\\' :: c :: escape text := by
  rw [escape, List.flatMap_cons, if_pos h]
  rfl

theorem escape_cons_of_not_control {c : Char} (h : isControl c = false) (text : List Char) :
    escape (c :: text) = c :: escape text := by
  rw [escape, List.flatMap_cons, if_neg (by simp [h])]
  rfl

/-- Escaped text joins the text before it. -/
theorem kinds_escape (text rest pending : List Char) :
    kinds pending (lexemes (escape text ++ rest)) = kinds (pending ++ text) (lexemes rest) := by
  induction text generalizing pending with
  | nil => rw [escape_nil, List.nil_append, List.append_nil]
  | cons c text ih =>
    have hpending : pending ++ c :: text = pending ++ [c] ++ text := by simp
    cases hc : isControl c with
    | true =>
      rw [escape_cons_of_control hc, List.cons_append, List.cons_append, lexemes_escaped hc, kinds, ih, hpending]
    | false => rw [escape_cons_of_not_control hc, List.cons_append, lexemes_of_not_control hc, kinds, ih, hpending]

/-- Escaped text begins with a backslash, or with a character of text. -/
theorem head?_escape_append_ne {text : List Char} (h : text ≠ []) {c : Char} (hbackslash : c ≠ '\\')
    (hc : isControl c = true ∨ text.head? ≠ some c) (rest : List Char) : (escape text ++ rest).head? ≠ some c := by
  cases text with
  | nil => exact absurd rfl h
  | cons first text =>
    cases hfirst : isControl first with
    | true =>
      rw [escape_cons_of_control hfirst]
      simpa using hbackslash.symm
    | false =>
      rw [escape_cons_of_not_control hfirst]
      rcases hc with hc | hc
      · rintro ⟨⟩
        rw [hfirst] at hc
        contradiction
      · exact hc

end Token

/-! ### Printed trees -/

namespace Node

mutual

/-- The characters of a printed tree. -/
def chars : Node → List Char
  | literal text => Token.escape text.toList
  | list items => charsIn items
  | field ref =>
    ref.scope.sigil :: (Token.escape (ref.verb.getD "").toList ++ '{' :: (Token.escape ref.name.toList ++ ['}']))
  | wrap scope _ => [scope.sigil, 'w']
  | conditional guard body =>
    guard.scope.sigil :: '!' :: (Token.escape guard.condition.toList ++ '{' :: (body.chars ++ ['}']))
termination_by structural node => node

def charsIn : List Node → List Char
  | [] => []
  | node :: rest => node.chars ++ charsIn rest
termination_by structural items => items

end

/-- The tree as a format string. -/
def print (node : Node) : String := String.ofList node.chars

end Node

namespace Token

open Node (chars charsIn)

variable (pending rest : List Char)

theorem textKinds_toList {text : String} (h : text ≠ "") : textKinds text.toList = [.text text] := by
  have hlist : text.toList ≠ [] := fun hnil => h (String.toList_eq_nil_iff.1 hnil)
  rw [textKinds_of_ne_nil hlist, String.ofList_toList]

theorem kinds_chars_literal (text : String) :
    kinds pending (lexemes (chars (.literal text) ++ rest)) = kinds (pending ++ text.toList) (lexemes rest) := by
  rw [chars, kinds_escape]

theorem kinds_chars_wrap (scope : Scope) (span : Span) :
    kinds pending (lexemes (chars (.wrap scope span) ++ rest)) =
      textKinds pending ++ .mark (.wrap scope) :: kinds [] (lexemes rest) := by
  have hchars : chars (.wrap scope span) ++ rest = scope.sigil :: 'w' :: rest := by simp [chars]
  rw [hchars, lexemes_wrap, kinds]

/-- A name or a condition up to its brace. -/
theorem kinds_escape_mark {text : String} (h : text ≠ "") {c : Char} {m : Mark}
    (hlexemes : lexemes (c :: rest) = .mark m :: lexemes rest) :
    kinds [] (lexemes (escape text.toList ++ c :: rest)) = .text text :: .mark m :: kinds [] (lexemes rest) := by
  rw [kinds_escape, hlexemes, kinds, List.nil_append, textKinds_toList h]
  rfl

theorem kinds_chars_field (scope : Scope) {name : String} (hname : name ≠ "") (span : Span) :
    kinds pending (lexemes (chars (.field ⟨scope, none, name, span⟩) ++ rest)) =
      textKinds pending ++ .mark (.field scope) :: .mark .openBrace :: .text name :: .mark .closeBrace ::
        kinds [] (lexemes rest) := by
  have hchars : chars (.field ⟨scope, none, name, span⟩) ++ rest =
      scope.sigil :: '{' :: (escape name.toList ++ '}' :: rest) := by simp [chars, escape]
  rw [hchars, lexemes_field scope (by simp) (by simp) (by simp), lexemes_openBrace, kinds, kinds,
    kinds_escape_mark rest hname (lexemes_closeBrace rest)]
  rfl

theorem kinds_chars_verbField (scope : Scope) {verb name : String} (hverb : IsVerbText verb) (hname : name ≠ "")
    (span : Span) :
    kinds pending (lexemes (chars (.field ⟨scope, some verb, name, span⟩) ++ rest)) =
      textKinds pending ++ .mark (.field scope) :: .text verb :: .mark .openBrace :: .text name :: .mark .closeBrace ::
        kinds [] (lexemes rest) := by
  obtain ⟨hnonempty, hw, hbang⟩ := hverb
  let behind : List Char := '{' :: (escape name.toList ++ '}' :: rest)
  have hchars : chars (.field ⟨scope, some verb, name, span⟩) ++ rest =
      scope.sigil :: (escape verb.toList ++ behind) := by simp [chars, behind]
  have hne : verb.toList ≠ [] := by simpa using hnonempty
  have hfield : lexemes (scope.sigil :: (escape verb.toList ++ behind)) =
      .mark (.field scope) :: lexemes (escape verb.toList ++ behind) := by
    apply lexemes_field
    · exact head?_escape_append_ne hne (by decide) (Or.inl rfl) behind
    · exact head?_escape_append_ne hne (by decide) (Or.inr hbang) behind
    · exact head?_escape_append_ne hne (by decide) (Or.inr hw) behind
  rw [hchars, hfield, kinds, kinds_escape_mark _ hnonempty (lexemes_openBrace _),
    kinds_escape_mark rest hname (lexemes_closeBrace rest)]

/-- The head of a conditional, up to its body. -/
theorem kinds_chars_conditional (guard : Guard) (hcondition : guard.condition ≠ "") (body : Node) :
    kinds pending (lexemes (chars (.conditional guard body) ++ rest)) =
      textKinds pending ++ .mark (.guard guard.scope) :: .text guard.condition :: .mark .openBrace ::
        kinds [] (lexemes (body.chars ++ '}' :: rest)) := by
  have hchars : chars (.conditional guard body) ++ rest =
      guard.scope.sigil :: '!' :: (escape guard.condition.toList ++ '{' :: (body.chars ++ '}' :: rest)) := by
    simp [chars]
  rw [hchars, lexemes_guard, kinds, kinds_escape_mark _ hcondition (lexemes_openBrace _)]

end Token

end Mishap
