import Mishap.Template.Token

/-!
Trees of format strings, their simplified form and their text as an s-expression.
-/

namespace Mishap

/-- A field with the verb to format it by. -/
structure FieldRef where
  scope : Scope
  verb : Option String
  name : String
  span : Span
  deriving DecidableEq, Repr

/-- The verb of a field that names none. -/
def defaultVerb : String := "v"

def FieldRef.verbText (ref : FieldRef) : String :=
  match ref.verb with
  | some verb => if verb = "" then defaultVerb else verb
  | none => defaultVerb

/-- The head of a conditional. One that is forced shows its body whatever its condition says. -/
structure Guard where
  scope : Scope
  condition : String
  forced : Bool
  span : Span
  deriving DecidableEq, Repr

/-- The head as an s-expression begins with it. -/
def Guard.pretty (guard : Guard) : String :=
  (if guard.forced then "show " else "if ") ++ guard.scope.sigil.toString ++ "!" ++ guard.condition

/-- A part of a message. -/
inductive Node
  | literal (text : String)
  | list (items : List Node)
  | field (ref : FieldRef)
  | wrap (scope : Scope) (span : Span)
  | conditional (guard : Guard) (body : Node)
  deriving Repr

namespace Node

instance : Inhabited Node := ⟨literal ""⟩

/-! ### Simplified trees -/

/-- Puts a node in front of others: an empty literal leaves no trace, and two literals become one. -/
def prepend (node : Node) (rest : List Node) : List Node :=
  match node, rest with
  | literal a, rest =>
    if a = "" then rest
    else
      match rest with
      | literal b :: rest => literal (a ++ b) :: rest
      | rest => literal a :: rest
  | node, rest => node :: rest

/-- The nodes that a simplified node contributes to a list around it. -/
def spread : Node → List Node
  | list items => items
  | node => [node]

/-- A list of one node is that node, and an empty list is an empty literal. -/
def collapse : List Node → Node
  | [] => literal ""
  | [node] => node
  | items => list items

mutual

/-- Flattens nested lists, joins literals that stand side by side and drops empty ones. -/
def simplify : Node → Node
  | list items => collapse (simplifyItems items)
  | conditional guard body => conditional guard body.simplify
  | node => node
termination_by structural node => node

def simplifyItems : List Node → List Node
  | [] => []
  | node :: rest => node.simplify.spread.foldr prepend (simplifyItems rest)
termination_by structural items => items

end

/-! ### Text of a tree -/

mutual

/-- The tree as an s-expression. -/
def pretty : Node → String
  | literal text => Text.quoted text
  | list items => "(list" ++ prettyItems items ++ ")"
  | field ref => "(field " ++ ref.scope.sigil.toString ++ ref.verbText ++ " " ++ ref.name ++ ")"
  | wrap scope _ => "(wrap " ++ scope.sigil.toString ++ ")"
  | conditional guard body => "(" ++ guard.pretty ++ " " ++ body.pretty ++ ")"
termination_by structural node => node

/-- Every item after a space. -/
def prettyItems : List Node → String
  | [] => ""
  | node :: rest => " " ++ node.pretty ++ prettyItems rest
termination_by structural items => items

end

/-- The tree of a whole format string. -/
def prettyRoot (root : Node) : String := "(root " ++ root.pretty ++ ")"

end Node

end Mishap
