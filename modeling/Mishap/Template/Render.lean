import Mishap.Template.Name
import Mishap.Template.Node
import Mishap.Template.Voice

/-!
Rendering a tree into a message. What a tree asks for and does not get shows as a marker in the message, so that
rendering fails only where formatting a number does.
-/

namespace Mishap

/-- Shown for a field that the map does not hold. -/
def missingValueText : String := "<missing value>"

/-- Shown for a cause where there is none. -/
def noCauseText : String := "<nil>"

/-- What a tree is rendered against: the parameters of the failure, those passed down to it, and its cause. -/
structure Setting where
  own : Params
  passed : Params
  cause : Option Voice

namespace Setting

def params (setting : Setting) : Scope → Params
  | .own => setting.own
  | .passed => setting.passed

/-- The text of a wrapped cause: its message, or its message against the parameters passed down. -/
def causeText (setting : Setting) (scope : Scope) : Verb.Formatted String :=
  match setting.cause, scope with
  | none, _ => .ok noCauseText
  | some voice, .own => voice.message
  | some voice, .passed =>
    match voice.interpolate with
    | some interpolate => interpolate setting.passed
    | none => voice.message

/-- The text of a field: a selector formats the whole map. -/
def fieldText (setting : Setting) (ref : FieldRef) : Verb.Formatted String :=
  let params := setting.params ref.scope
  if isMapSelector ref.name then formatValue params.toValue ref.verbText
  else
    match params.get? ref.name with
    | some v => formatValue v ref.verbText
    | none => .ok missingValueText

/-- An unknown condition shows the body, so that nothing is hidden. -/
def shows (setting : Setting) (guard : Guard) : Bool :=
  guard.forced || (Condition.ofText? guard.condition).all (·.holds (setting.params guard.scope))

end Setting

namespace Node

mutual

def render (setting : Setting) : Node → Verb.Formatted String
  | literal text => .ok text
  | list items => renderItems setting items
  | field ref => setting.fieldText ref
  | wrap scope _ => setting.causeText scope
  | conditional guard body => if setting.shows guard then body.render setting else .ok ""
termination_by structural node => node

def renderItems (setting : Setting) : List Node → Verb.Formatted String
  | [] => .ok ""
  | node :: rest => do
    let text ← node.render setting
    return text ++ (← renderItems setting rest)
termination_by structural items => items

end

end Node

end Mishap
