import Mishap.Params
import Mishap.Template.Verb

/-!
What a template can ask of a cause.
-/

namespace Mishap

/-- The message of a cause, and, for a cause that can render its message against the parameters of the failure around
it, that way of rendering it. -/
structure Voice where
  message : Verb.Formatted String
  interpolate : Option (Params → Verb.Formatted String)

/-- A cause that has nothing but its message. -/
def Voice.plain (message : String) : Voice := ⟨.ok message, none⟩

def Voice.isInterpolatable (voice : Voice) : Bool := voice.interpolate.isSome

end Mishap
