import Mishap.Template.Problem
import Mishap.Template.Render

/-!
Checking a tree at three levels. Verbs, names and conditions are always checked; whether a directive gets what it asks
for is checked only in the scopes that the level resolves, and only where every conditional around the directive is of
such a scope and shows its body.
-/

namespace Mishap

/-- How far a check goes. -/
inductive Level
  | syntactic
  | own
  | passed
  deriving DecidableEq, Repr

/-- Whether directives of a scope are resolved at a level. -/
def Level.resolves : Level → Scope → Bool
  | .syntactic, _ => false
  | .own, .own => true
  | .own, .passed => false
  | .passed, _ => true

/-- A problem at a stretch of the format string. -/
structure Located where
  problem : Problem
  span : Span
  deriving DecidableEq, Repr

namespace FieldRef

/-- The problem of the text of a field directive, if it has one. -/
def syntaxProblem? (ref : FieldRef) : Option Problem :=
  match ref.verb.filter fun verb => '%' ∈ verb.toList with
  | some verb => some (.verbContainsPercent verb)
  | none =>
    if isMapSelector ref.name || isFieldName ref.name then none else some (.invalidFieldName ref.name)

/-- The problem of a field directive that its map should answer. -/
def missingProblem? (ref : FieldRef) (params : Params) : Option Problem :=
  if isMapSelector ref.name || params.contains ref.name then none
  else
    match ref.scope with
    | .own => some (.missingOwnField ref.name)
    | .passed => some (.missingPassedField ref.name)

end FieldRef

/-- The problem of a wrapped cause: the own scope needs one, the passed scope one that can be interpolated. -/
def Setting.wrapProblem? (setting : Setting) : Scope → Option Problem
  | .own => if setting.cause.isNone then some .wrapWithoutCause else none
  | .passed => if setting.cause.any (·.isInterpolatable) then none else some .causeNotInterpolatable

/-- Nothing, or a problem at `span`. -/
def Located.check (span : Span) : Option Problem → Except Located Unit
  | some problem => .error ⟨problem, span⟩
  | none => .ok ()

namespace Node

mutual

/-- The first problem in source order. `active` says that every conditional around the node shows its body. -/
def check (level : Level) (setting : Setting) (active : Bool) : Node → Except Located Unit
  | literal _ => .ok ()
  | list items => checkItems level setting active items
  | field ref => do
    Located.check ref.span ref.syntaxProblem?
    if active && level.resolves ref.scope then
      Located.check ref.span (ref.missingProblem? (setting.params ref.scope))
  | wrap scope span =>
    if active && level.resolves scope then Located.check span (setting.wrapProblem? scope) else .ok ()
  | conditional guard body =>
    match Condition.ofText? guard.condition with
    | none => .error ⟨.unknownCondition guard.condition, guard.span⟩
    | some _ => body.check level setting (active && level.resolves guard.scope && setting.shows guard)
termination_by structural node => node

def checkItems (level : Level) (setting : Setting) (active : Bool) : List Node → Except Located Unit
  | [] => .ok ()
  | node :: rest => do
    node.check level setting active
    checkItems level setting active rest
termination_by structural items => items

end

end Node

end Mishap
