import Mathlib.Logic.Relation
import Mishap.Proofs.Fault.Chain
import Mishap.Proofs.Template.Resolution

/-!
Rendering with a trace of what is substituted, through all the messages that go into a message. The trace leaves the
text as it is. Main statement: nothing is substituted anywhere exactly if every note whose message is rendered on the
way passes its check against the map that is passed down to it there.
-/

namespace Mishap

open Relation (ReflTransGen)

/-! ### Texts with a trace -/

/-- What a message shows in place of what a directive asks for. -/
inductive Substitute
  /-- The marker of a value that the map does not hold. -/
  | missingValue (ref : FieldRef)
  /-- The marker of a cause where there is none. -/
  | noCause (scope : Scope)
  /-- The message of a cause that cannot be interpolated. -/
  | plainMessage
  deriving DecidableEq, Repr

/-- A text, and what was substituted in it. -/
structure Traced where
  text : Verb.Formatted String
  substitutes : List Substitute

namespace Traced

/-- A text without substitutes. -/
def clean (text : Verb.Formatted String) : Traced := ⟨text, []⟩

/-- Texts one behind the other. What is substituted in the second does not depend on whether formatting failed in the
first. -/
def join (a b : Traced) : Traced := ⟨Verb.Formatted.join a.text b.text, a.substitutes ++ b.substitutes⟩

end Traced

/-- The voice of a cause, with a trace. -/
structure TracedVoice where
  message : Traced
  interpolate : Option (Params → Traced)

def TracedVoice.forget (voice : TracedVoice) : Voice :=
  ⟨voice.message.text, voice.interpolate.map fun interpolate passed => (interpolate passed).text⟩

/-- What a tree is rendered against with a trace. -/
structure TracedSetting where
  own : Params
  passed : Params
  cause : Option TracedVoice

namespace TracedSetting

def forget (s : TracedSetting) : Setting := ⟨s.own, s.passed, s.cause.map TracedVoice.forget⟩

def causeText (s : TracedSetting) (scope : Scope) : Traced :=
  match s.cause, scope with
  | none, _ => ⟨.ok noCauseText, [.noCause scope]⟩
  | some voice, .own => voice.message
  | some voice, .passed =>
    match voice.interpolate with
    | some interpolate => interpolate s.passed
    | none => ⟨voice.message.text, .plainMessage :: voice.message.substitutes⟩

def fieldText (s : TracedSetting) (ref : FieldRef) : Traced :=
  let params := s.forget.params ref.scope
  if isMapSelector ref.name then .clean (formatValue params.toValue ref.verbText)
  else
    match params.get? ref.name with
    | some v => .clean (formatValue v ref.verbText)
    | none => ⟨.ok missingValueText, [.missingValue ref]⟩

end TracedSetting

namespace Node

mutual

/-- The text of a tree with a trace. -/
def trace (s : TracedSetting) : Node → Traced
  | literal text => .clean (.ok text)
  | list items => traceItems s items
  | field ref => s.fieldText ref
  | wrap scope _ => s.causeText scope
  | conditional guard body => if s.forget.shows guard then body.trace s else .clean (.ok "")
termination_by structural node => node

def traceItems (s : TracedSetting) : List Node → Traced
  | [] => .clean (.ok "")
  | node :: rest => (node.trace s).join (traceItems s rest)
termination_by structural items => items

end

end Node

namespace Fault

/-- The voice of an annotated fault with a trace. -/
def annotatedTrace (template : Template) (params : Params) (cause : Option TracedVoice) : TracedVoice :=
  ⟨template.root.trace ⟨params, params, cause⟩, some fun passed => template.root.trace ⟨params, passed, cause⟩⟩

/-- The voice of a fault with a trace. -/
def tracedVoice : Fault → TracedVoice
  | .io _ error => ⟨.clean (.ok error.message), none⟩
  | .foreign _ message _ => ⟨.clean (.ok message), none⟩
  | .annotated _ template params none => annotatedTrace template params none
  | .annotated _ template params (some c) => annotatedTrace template params (some c.tracedVoice)
  | .boxed inner => inner.tracedVoice
termination_by structural f => f

end Fault

namespace Note

/-- What the template of a note is rendered against with a trace. -/
def tracedSetting (a : Note) (passed : Params) : TracedSetting := ⟨a.params, passed, a.cause.map Fault.tracedVoice⟩

/-- The message of a note against the parameters passed down to it, with a trace. -/
def trace (a : Note) (passed : Params) : Traced := a.template.root.trace (a.tracedSetting passed)

/-- The map that a wrapped cause is rendered against: its own for `%w`, the one passed down for `$w`. -/
def handed (c : Note) (passed : Params) : Scope → Params
  | .own => c.params
  | .passed => passed

/-- Rendering a note against a map reaches its cause, which is annotated, and renders that. -/
inductive Enters : Note × Params → Note × Params → Prop
  | wrap {a c : Note} {passed : Params} {scope : Scope} {around : List Guard} {span : Span}
      (hcause : a.cause.bind Fault.note? = some c)
      (h : ⟨around, .wrap scope span⟩ ∈ a.template.root.visited ⟨a.params, passed, a.voice?⟩) :
    Enters (a, passed) (c, c.handed passed scope)

/-- Rendering the first note against its map renders the second one against its own on the way. -/
def Visits (first last : Note × Params) : Prop := ReflTransGen Enters first last

end Note

/-! ### The trace leaves the text as it is -/

theorem TracedSetting.text_causeText (s : TracedSetting) (scope : Scope) :
    (s.causeText scope).text = s.forget.causeText scope := by
  obtain ⟨own, passed, cause⟩ := s
  cases cause with
  | none => cases scope <;> rfl
  | some voice =>
    obtain ⟨message, interpolate⟩ := voice
    cases scope with
    | own => rfl
    | passed => cases interpolate <;> rfl

theorem TracedSetting.text_fieldText (s : TracedSetting) (ref : FieldRef) :
    (s.fieldText ref).text = s.forget.fieldText ref := by
  rw [fieldText, Setting.fieldText]
  split
  · rfl
  · cases (s.forget.params ref.scope).get? ref.name <;> rfl

theorem Node.text_trace (s : TracedSetting) (node : Node) : (node.trace s).text = node.render s.forget := by
  induction node with
  | literal text => rfl
  | field ref => exact s.text_fieldText ref
  | wrap scope span => exact s.text_causeText scope
  | list items ih =>
    rw [trace, render]
    induction items with
    | nil => rfl
    | cons node rest ihrest =>
      obtain ⟨hnode, hrest⟩ := List.forall_mem_cons.1 ih
      rw [traceItems, renderItems_cons, Traced.join, hnode, ihrest hrest]
  | conditional guard body ih =>
    rw [trace, render]
    split
    · exact ih
    · rfl

theorem Fault.forget_tracedVoice (f : Fault) : f.tracedVoice.forget = f.voice := by
  have hannotated (template : Template) (params : Params) {cause : Option TracedVoice} {voice : Option Voice}
      (h : cause.map TracedVoice.forget = voice) :
      (annotatedTrace template params cause).forget = annotatedVoice template params voice := by
    have htext (passed : Params) :
        (template.root.trace ⟨params, passed, cause⟩).text = template.render params passed voice := by
      rw [Node.text_trace, TracedSetting.forget, h]
      rfl
    rw [annotatedTrace, annotatedVoice, TracedVoice.forget, htext]
    simp only [Option.map_some, htext]
  induction f with
  | io id error => rfl
  | foreign id message cause => rfl
  | annotated id template params cause ih =>
    cases cause with
    | none => exact hannotated template params rfl
    | some c => exact hannotated template params (congrArg some (ih c rfl))
  | boxed inner ih => exact ih

namespace Note

theorem forget_tracedSetting (a : Note) (passed : Params) :
    (a.tracedSetting passed).forget = ⟨a.params, passed, a.voice?⟩ := by
  obtain ⟨template, params, cause⟩ := a
  cases cause with
  | none => rfl
  | some c =>
    rw [tracedSetting, TracedSetting.forget]
    simp [voice?, Fault.forget_tracedVoice]

/-- With a trace or without, a note has the same message. -/
theorem text_trace (a : Note) (passed : Params) : (a.trace passed).text = a.interpolate passed := by
  rw [trace, Node.text_trace, forget_tracedSetting]
  rfl

end Note

/-! ### What is substituted -/

/-- What is substituted for a part. -/
def TracedSetting.substitutes (s : TracedSetting) : Part → List Substitute
  | .field ref => (s.fieldText ref).substitutes
  | .wrap scope _ => (s.causeText scope).substitutes
  | _ => []

namespace Node

variable (s : TracedSetting)

theorem filter_shown_cons {setting : Setting} {around : List Guard} (h : around.all setting.shows) (part : Part)
    (rest : List Placed) : (⟨around, part⟩ :: rest).filter (Placed.shown setting) =
      ⟨around, part⟩ :: rest.filter (Placed.shown setting) :=
  List.filter_cons_of_pos h

/-- What is substituted for a node inside of conditionals that show it. -/
theorem substitutes_trace_of_shown (node : Node) (around : List Guard) (h : around.all s.forget.shows) :
    (node.trace s).substitutes =
      ((node.parts around).filter (Placed.shown s.forget)).flatMap fun placed => s.substitutes placed.part := by
  induction node generalizing around with
  | literal text =>
    rw [parts, filter_shown_cons h]
    rfl
  | field ref =>
    rw [parts, filter_shown_cons h]
    exact (List.append_nil _).symm
  | wrap scope span =>
    rw [parts, filter_shown_cons h]
    exact (List.append_nil _).symm
  | list items ih =>
    rw [trace, parts]
    induction items with
    | nil => rfl
    | cons node rest ihrest =>
      obtain ⟨hnode, hrest⟩ := List.forall_mem_cons.1 ih
      rw [traceItems, partsIn, Traced.join, List.filter_append, List.flatMap_append, hnode around h, ihrest hrest]
  | conditional guard body ih =>
    rw [trace, parts, filter_shown_cons h, List.flatMap_cons]
    by_cases hguard : s.forget.shows guard = true
    · rw [if_pos hguard]
      apply ih
      simpa [hguard] using h
    · rw [if_neg hguard, filter_shown_of_hidden s.forget hguard]
      rfl

/-- What is substituted in a message is what is substituted for the parts that are shown. -/
theorem substitutes_trace (node : Node) :
    (node.trace s).substitutes = (node.visited s.forget).flatMap fun placed => s.substitutes placed.part :=
  node.substitutes_trace_of_shown s [] rfl

end Node

theorem TracedSetting.substitutes_field_eq_nil_iff (s : TracedSetting) (ref : FieldRef) :
    s.substitutes (.field ref) = [] ↔ (s.forget.answer? (.field ref)).isSome := by
  rw [substitutes, fieldText, Setting.answer?]
  split
  · simp [Traced.clean]
  · cases (s.forget.params ref.scope).get? ref.name <;> simp [Traced.clean]

namespace Fault

theorem tracedVoice_unbox (f : Fault) : f.unbox.tracedVoice = f.tracedVoice := by
  cases f <;> rfl

theorem tracedVoice_of_note {f : Fault} {a : Note} (h : f.note? = some a) :
    f.tracedVoice = ⟨a.trace a.params, some a.trace⟩ := by
  obtain ⟨id, hunbox⟩ := unbox_of_note h
  obtain ⟨template, params, cause⟩ := a
  rw [← tracedVoice_unbox, hunbox]
  cases cause <;> rfl

/-- A fault without a note has a message and nothing else. -/
theorem Flat.tracedVoice_of_no_note {f : Fault} (hf : f.Flat) (h : f.note? = none) :
    ∃ message, f.tracedVoice = ⟨.clean message, none⟩ := by
  cases f with
  | io id error => exact ⟨_, rfl⟩
  | foreign id message cause => exact ⟨_, rfl⟩
  | annotated => cases h
  | boxed inner =>
    cases inner with
    | io id error => exact ⟨_, rfl⟩
    | foreign id message cause => exact ⟨_, rfl⟩
    | annotated => cases h
    | boxed inner => exact absurd rfl (flat_boxed_iff.1 hf).1

end Fault

namespace Note

variable {a : Note} (hflat : ∀ c ∈ a.cause, c.Flat) (p : Params)
include hflat

/-- Nothing is substituted for a wrapped cause if there is one of the kind that is asked for, and nothing is
substituted in its message. -/
theorem substitutes_wrap_eq_nil_iff (scope : Scope) (span : Span) :
    (a.tracedSetting p).substitutes (.wrap scope span) = [] ↔
      ((a.tracedSetting p).forget.answer? (.wrap scope span)).isSome ∧
        ∀ c, a.cause.bind Fault.note? = some c → (c.trace (c.handed p scope)).substitutes = [] := by
  obtain ⟨template, params, cause⟩ := a
  cases cause with
  | none =>
    cases scope <;>
      simp [tracedSetting, TracedSetting.substitutes, TracedSetting.causeText, TracedSetting.forget, Setting.answer?]
  | some c =>
    cases hnote : c.note? with
    | none =>
      obtain ⟨message, hvoice⟩ := (hflat c rfl).tracedVoice_of_no_note hnote
      cases scope <;>
        simp [tracedSetting, TracedSetting.substitutes, TracedSetting.causeText, TracedSetting.forget,
          TracedVoice.forget, Setting.answer?, hvoice, Traced.clean, hnote]
    | some b =>
      cases scope <;>
        simp [tracedSetting, TracedSetting.substitutes, TracedSetting.causeText, TracedSetting.forget,
          TracedVoice.forget, Setting.answer?, Fault.tracedVoice_of_note hnote, hnote, handed]

/-- Nothing is substituted for a part if it has an answer and, where it wraps an annotated cause, nothing is substituted
in the message of that. -/
theorem substitutes_part_eq_nil_iff (part : Part) :
    (a.tracedSetting p).substitutes part = [] ↔
      ((a.tracedSetting p).forget.answer? part).isSome ∧
        ∀ scope span, part = .wrap scope span → ∀ c, a.cause.bind Fault.note? = some c →
          (c.trace (c.handed p scope)).substitutes = [] := by
  cases part with
  | wrap scope span =>
    rw [substitutes_wrap_eq_nil_iff hflat]
    simp
  | field ref => simp [TracedSetting.substitutes_field_eq_nil_iff]
  | literal text => simp [TracedSetting.substitutes, Setting.answer?]
  | head guard => simp [TracedSetting.substitutes, Setting.answer?]

end Note

/-! ### Checks -/

/-- Where a text has no problem, the check against both maps passes if all parts that are shown have an answer. -/
theorem Template.verifyPassed_eq_ok_iff {t : Template} (hspelling : t.verifySyntax = .ok ()) (own passed : Params)
    (cause : Option Voice) :
    t.verifyPassed own passed cause = .ok () ↔
      ∀ placed ∈ t.root.visited ⟨own, passed, cause⟩, (Setting.answer? ⟨own, passed, cause⟩ placed.part).isSome := by
  obtain ⟨herror, hparts⟩ := (verify_eq_ok_iff _ _ _).1 hspelling
  rw [verifyPassed, verify_eq_ok_iff]
  simp only [herror, true_and, Node.visited, List.mem_filter, and_imp]
  apply forall₂_congr
  intro placed hplaced
  have hspelt : placed.part.syntaxProblem? = none := (Option.or_eq_none_iff.1 (hparts placed hplaced)).1
  exact placed.problem?_passed_eq_none_iff _ hspelt

namespace Note

variable {a : Note} (hspelling : a.template.verifySyntax = .ok ()) (p : Params)
include hspelling

/-- Nothing is substituted in the message of a note if the note passes its check and nothing is substituted in the
messages that it renders. -/
theorem substitutes_trace_eq_nil_iff (hflat : ∀ c ∈ a.cause, c.Flat) :
    (a.trace p).substitutes = [] ↔
      a.checkMessage p = .ok () ∧ ∀ next, Enters (a, p) next → (next.1.trace next.2).substitutes = [] := by
  rw [trace, Node.substitutes_trace, List.flatMap_eq_nil_iff, checkMessage,
    Template.verifyPassed_eq_ok_iff hspelling, ← forget_tracedSetting]
  simp only [substitutes_part_eq_nil_iff hflat]
  constructor
  · intro h
    refine ⟨fun placed hplaced => (h placed hplaced).1, ?_⟩
    rintro _ ⟨hcause, hvisited⟩
    rw [← forget_tracedSetting] at hvisited
    exact (h _ hvisited).2 _ _ rfl _ hcause
  · rintro ⟨hcheck, hnext⟩ placed hplaced
    refine ⟨hcheck placed hplaced, ?_⟩
    intro scope span hpart c hcause
    obtain ⟨around, part⟩ := placed
    obtain rfl : part = .wrap scope span := hpart
    rw [forget_tracedSetting] at hplaced
    exact hnext _ (.wrap hcause hplaced)

end Note

namespace Fault

/-- What a note has if it passes a test and all that it enters has it too, it has if every note on the way passes the
test. -/
theorem forall_visits_iff {P Q : Note → Params → Prop} {f : Fault} (hflat : f.Flat) {a : Note}
    (hnote : f.note? = some a) (p : Params)
    (hstep : ∀ l q, Note.Visits (a, p) (l, q) → (∀ c ∈ l.cause, c.Flat) →
      (P l q ↔ Q l q ∧ ∀ next, Note.Enters (l, q) next → P next.1 next.2)) :
    P a p ↔ ∀ l q, Note.Visits (a, p) (l, q) → Q l q := by
  induction f using induct_cause generalizing a p with
  | step f ih =>
    have hcause : f.cause? = a.cause := cause?_of_note hnote
    have hflatCause : ∀ c ∈ a.cause, c.Flat := fun c hc => hflat.of_cause (hcause.trans hc)
    -- whatever is rendered next is the note of the cause, where the induction applies against every map
    have hnext (next : Note × Params) (henters : Note.Enters (a, p) next) :
        P next.1 next.2 ↔ ∀ l q, Note.Visits next (l, q) → Q l q := by
      obtain ⟨b, q⟩ := next
      have hbelow : ∃ c, a.cause = some c ∧ c.note? = some b := by
        cases henters with
        | wrap hbind _ => exact Option.bind_eq_some_iff.1 hbind
      obtain ⟨c, hc, hb⟩ := hbelow
      refine ih c (hcause.trans hc) (hflatCause c hc) hb q fun l r hvisits => ?_
      exact hstep l r (.head henters hvisits)
    rw [hstep a p .refl hflatCause]
    constructor
    · rintro ⟨htest, hbelow⟩ l q hvisits
      rcases Relation.ReflTransGen.cases_head hvisits with heq | ⟨next, henters, hvisits⟩
      · cases heq
        exact htest
      · exact (hnext next henters).1 (hbelow next henters) l q hvisits
    · intro h
      refine ⟨h a p .refl, fun next henters => (hnext next henters).2 fun l q hvisits => ?_⟩
      exact h l q (.head henters hvisits)

/-- The checks along the way, for faults as they are made: no box is around a box. -/
theorem substitutes_eq_nil_iff_checked {f : Fault} (hflat : f.Flat) {a : Note} (hnote : f.note? = some a) (p : Params)
    (hspelling : ∀ l q, Note.Visits (a, p) (l, q) → l.template.verifySyntax = .ok ()) :
    (a.trace p).substitutes = [] ↔ ∀ l q, Note.Visits (a, p) (l, q) → l.checkMessage q = .ok () := by
  refine forall_visits_iff (P := fun l q => (l.trace q).substitutes = []) hflat hnote p ?_
  intro l q hvisits hflatCause
  exact Note.substitutes_trace_eq_nil_iff (hspelling l q hvisits) q hflatCause

/-- The message of an annotated fault against a map comes without a substitute, its own or one in a message that goes
into it, exactly if every note whose message is rendered on the way passes its check against the map that it is rendered
with. -/
theorem clean_iff_checked (f : Fault) (hflat : f.Flat) (a : Note) (hnote : f.note? = some a) (p : Params)
    (hspelling : ∀ l q, Note.Visits (a, p) (l, q) → l.template.verifySyntax = .ok ()) :
    (a.trace p).text = a.interpolate p ∧
      ((a.trace p).substitutes = [] ↔ ∀ l q, Note.Visits (a, p) (l, q) → l.checkMessage q = .ok ()) :=
  ⟨a.text_trace p, substitutes_eq_nil_iff_checked hflat hnote p hspelling⟩

/-- What the message of a cause lacks is not found by the check of the note around it: `%w` does not hand the map on. -/
theorem clean_iff_checked_wrapped :
    ∃ (a : Note) (p : Params), a.checkMessage p = .ok () ∧ (a.trace p).text = a.interpolate p ∧
      ∃ l q, Note.Visits (a, p) (l, q) ∧ l.checkMessage q ≠ .ok () := by
  let inner : Note := ⟨Template.ofFormat "no $\x7bx\x7d", .empty, none⟩
  let outer : Note := ⟨Template.ofFormat "%w", .empty, some (annotate 1 inner).box⟩
  let p : Params := .singleton "x" (.int 1)
  have hinner : (annotate 1 inner).Flat := flat_annotated_iff.2 nofun
  have hflat : (annotate 0 outer).Flat := by
    apply flat_annotated_iff.2
    rintro c ⟨⟩
    exact hinner.box
  have hspelling : ∀ l q, Note.Visits (outer, p) (l, q) → l.template.verifySyntax = .ok () := by
    intro l q hvisits
    rcases Relation.ReflTransGen.cases_head hvisits with heq | ⟨_, ⟨hcause, -⟩, hvisits⟩
    · cases heq
      rfl
    cases hcause
    rcases Relation.ReflTransGen.cases_head hvisits with heq | ⟨_, ⟨hcause, -⟩, -⟩
    · cases heq
      rfl
    · cases hcause
  obtain ⟨htext, hclean⟩ := clean_iff_checked (annotate 0 outer) hflat outer rfl p hspelling
  refine ⟨outer, p, rfl, htext, ?_⟩
  by_contra hnone
  have hchecks : ∀ l q, Note.Visits (outer, p) (l, q) → l.checkMessage q = .ok () := by
    intro l q hvisits
    by_contra hcheck
    exact hnone ⟨l, q, hvisits, hcheck⟩
  have hsubstituted : (outer.trace p).substitutes.length = 1 := rfl
  rw [hclean.2 hchecks] at hsubstituted
  cases hsubstituted

end Fault

end Mishap
