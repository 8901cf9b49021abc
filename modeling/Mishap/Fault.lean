import Mishap.Fault.IoError
import Mishap.Template

/-!
Faults: failures with their causes. A fault has an identity, which a box around it shares, and a message; the message of
an annotated fault is rendered from its template, its parameters and its cause.
-/

namespace Mishap

/-- What tells a fault from every other one with the same content. -/
abbrev Identity := Nat

/-- A failure: of a device, of a kind that is not known here, or annotated with a template and parameters. A boxed fault
passes for the one inside except where the box itself is asked for. -/
inductive Fault
  | io (id : Identity) (error : IoError)
  | foreign (id : Identity) (message : String) (cause : Option Fault)
  | annotated (id : Identity) (template : Template) (params : Params) (cause : Option Fault)
  | boxed (inner : Fault)

/-- What an annotation adds to a cause. -/
structure Note where
  template : Template
  params : Params
  cause : Option Fault

/-- The shape of a link as it stands, boxes included. -/
inductive LinkKind
  | io
  | foreign
  | annotated
  | boxed
  deriving DecidableEq, Repr

namespace Fault

/-- Induction on a fault, its cause included. -/
@[elab_as_elim, induction_eliminator]
theorem induct {motive : Fault → Prop} (io : ∀ id error, motive (.io id error))
    (foreign : ∀ id message cause, (∀ c, cause = some c → motive c) → motive (.foreign id message cause))
    (annotated : ∀ id template params cause, (∀ c, cause = some c → motive c) →
      motive (.annotated id template params cause))
    (boxed : ∀ inner, motive inner → motive (.boxed inner)) : ∀ f, motive f
  | .io id error => io id error
  | .foreign id message none => foreign id message none (by simp)
  | .foreign id message (some c) =>
    foreign id message (some c) fun _ h => Option.some.inj h ▸ induct io foreign annotated boxed c
  | .annotated id template params none => annotated id template params none (by simp)
  | .annotated id template params (some c) =>
    annotated id template params (some c) fun _ h =>
      Option.some.inj h ▸ induct io foreign annotated boxed c
  | .boxed inner => boxed inner (induct io foreign annotated boxed inner)

/-! ### Boxes and identity -/

def unbox : Fault → Fault
  | .boxed inner => inner
  | f => f

/-- Boxes a fault; a box is not put around another. -/
def box : Fault → Fault
  | .boxed inner => .boxed inner
  | f => .boxed f

def identity : Fault → Identity
  | .io id _ => id
  | .foreign id _ _ => id
  | .annotated id _ _ _ => id
  | .boxed inner => inner.identity

/-- Whether two faults are one and the same, boxes apart. -/
def sameIdentity (a b : Fault) : Bool := a.identity == b.identity

def linkKind : Fault → LinkKind
  | .io .. => .io
  | .foreign .. => .foreign
  | .annotated .. => .annotated
  | .boxed _ => .boxed

/-- The note of the fault, through a box. -/
def note? (f : Fault) : Option Note :=
  match f.unbox with
  | .annotated _ template params cause => some ⟨template, params, cause⟩
  | _ => none

def ioError? (f : Fault) : Option IoError :=
  match f.unbox with
  | .io _ error => some error
  | _ => none

/-! ### Messages -/

/-- The voice of an annotated fault: its message is its template rendered with its own parameters in both scopes. -/
def annotatedVoice (template : Template) (params : Params) (cause : Option Voice) : Voice :=
  ⟨template.render params params cause, some fun passed => template.render params passed cause⟩

/-- What a template around the fault can ask of it. -/
def voice : Fault → Voice
  | .io _ error => .plain error.message
  | .foreign _ message _ => .plain message
  | .annotated _ template params none => annotatedVoice template params none
  | .annotated _ template params (some c) => annotatedVoice template params (some c.voice)
  | .boxed inner => inner.voice
termination_by structural f => f

def message (f : Fault) : Verb.Formatted String := f.voice.message

end Fault

namespace Note

def voice? (a : Note) : Option Voice := a.cause.map Fault.voice

/-- The message of the annotated fault against the parameters passed down to it. -/
def interpolate (a : Note) (passed : Params) : Verb.Formatted String :=
  a.template.render a.params passed a.voice?

def message (a : Note) : Verb.Formatted String := a.interpolate a.params

/-- Checks the template as it would be rendered with `passed`. -/
def checkMessage (a : Note) (passed : Params) : Except TemplateError Unit :=
  a.template.verifyPassed a.params passed a.voice?

end Note

end Mishap
