import Mishap.Proofs.Fault.Chain
import Mishap.Proofs.Template.Parts

/-!
What a message reads of the two parameter maps. A directive reads the map of its own scope only: a value of it, the map
as a whole, or whether it is empty. A cause that is interpolated reads the map passed down in turn, a cause whose
message is wrapped does not. Main statement: a message is the same against any two maps that agree on what it reads of
them.
-/

namespace Mishap

/-- What a message can read of a parameter map. -/
inductive Reading
  | value (name : String)
  | whole
  | emptiness
  deriving DecidableEq, Repr

/-- Whether a reading finds the same in two maps. -/
def Reading.Agree (p q : Params) : Reading → Prop
  | value name => p.get? name = q.get? name
  | whole => p = q
  | emptiness => p.isEmpty = q.isEmpty

theorem Reading.agree_self (p : Params) (reading : Reading) : reading.Agree p p := by
  cases reading <;> rfl

/-! ### Parts -/

namespace Part

/-- The scope that a directive is written for. -/
def sigil? : Part → Option Scope
  | literal _ => none
  | field ref => some ref.scope
  | wrap scope _ => some scope
  | head guard => some guard.scope

/-- What a part reads of the map of a scope. -/
def readings (scope : Scope) : Part → List Reading
  | field ref =>
    if ref.scope = scope then [if isMapSelector ref.name then .whole else .value ref.name] else []
  | head guard => if guard.scope = scope then [.emptiness] else []
  | _ => []

/-- Whether a part interpolates the cause. -/
def interpolates : Part → Bool
  | wrap .passed _ => true
  | _ => false

/-- Whether a part gives the same text, or shows its body alike, in two settings. -/
def Alike (s t : Setting) : Part → Prop
  | literal _ => True
  | field ref => s.fieldText ref = t.fieldText ref
  | wrap scope _ => s.causeText scope = t.causeText scope
  | head guard => s.shows guard = t.shows guard

variable {s t : Setting}

theorem alike_field {ref : FieldRef}
    (h : ∀ reading ∈ (field ref).readings ref.scope, reading.Agree (s.params ref.scope) (t.params ref.scope)) :
    (field ref).Alike s t := by
  rw [Alike, Setting.fieldText, Setting.fieldText]
  rw [readings, if_pos rfl, List.forall_mem_singleton] at h
  cases hselector : isMapSelector ref.name with
  | true =>
    rw [hselector] at h
    have hmap : s.params ref.scope = t.params ref.scope := h
    simp [hmap]
  | false =>
    rw [hselector] at h
    have hvalue : (s.params ref.scope).get? ref.name = (t.params ref.scope).get? ref.name := h
    simp [hvalue]

theorem alike_head {guard : Guard}
    (h : ∀ reading ∈ (head guard).readings guard.scope, reading.Agree (s.params guard.scope) (t.params guard.scope)) :
    (head guard).Alike s t := by
  rw [readings, if_pos rfl, List.forall_mem_singleton] at h
  have hempty : (s.params guard.scope).isEmpty = (t.params guard.scope).isEmpty := h
  have hholds (condition : Condition) :
      condition.holds (s.params guard.scope) = condition.holds (t.params guard.scope) := by
    cases condition <;> simp [Condition.holds, hempty]
  rw [Alike, Setting.shows, Setting.shows]
  cases Condition.ofText? guard.condition with
  | none => rfl
  | some condition => simp [hholds]

theorem alike_own_wrap (span : Span) (hcause : s.cause = t.cause) : (wrap .own span).Alike s t := by
  rw [Alike, Setting.causeText.eq_def, Setting.causeText.eq_def, hcause]
  cases t.cause <;> rfl

end Part

/-! ### Trees -/

namespace Node

/-- The parts of a tree, wherever they stand. -/
def pieces (node : Node) : List Part := (node.parts []).map Placed.part

/-- The conditionals around a node are not its parts. -/
theorem map_part_parts (node : Node) (around : List Guard) : (node.parts around).map Placed.part = node.pieces := by
  rw [pieces]
  induction node generalizing around with
  | list items ih =>
    simp only [parts, partsIn_eq_flatMap, List.map_flatMap]
    exact List.flatMap_congr fun node hnode => (ih node hnode around).trans (ih node hnode []).symm
  | conditional guard body ih =>
    simp only [parts, List.map_cons]
    rw [ih, ih ([] ++ [guard])]
  | _ => simp [parts]

theorem pieces_list (items : List Node) : (list items).pieces = items.flatMap pieces := by
  rw [pieces, parts, partsIn_eq_flatMap, List.map_flatMap]
  rfl

theorem pieces_conditional (guard : Guard) (body : Node) :
    (conditional guard body).pieces = .head guard :: body.pieces := by
  rw [pieces, parts, List.map_cons, map_part_parts]

/-- A tree gives the same text where all its parts do. -/
theorem render_congr {s t : Setting} (node : Node) (h : ∀ part ∈ node.pieces, part.Alike s t) :
    node.render s = node.render t := by
  induction node with
  | literal text => rfl
  | field ref => exact h (.field ref) (by simp [pieces, parts])
  | wrap scope span => exact h (.wrap scope span) (by simp [pieces, parts])
  | list items ih =>
    rw [pieces_list] at h
    rw [render, render, renderItems_eq_joined, renderItems_eq_joined]
    congr 1
    apply List.map_congr_left
    intro node hnode
    exact ih node hnode fun part hpart => h part (List.mem_flatMap.2 ⟨node, hnode, hpart⟩)
  | conditional guard body ih =>
    rw [pieces_conditional] at h
    obtain ⟨hguard, hbody⟩ := List.forall_mem_cons.1 h
    have hshows : s.shows guard = t.shows guard := hguard
    rw [render, render, hshows, ih hbody]

/-- What a tree reads of the map of a scope. -/
def readings (scope : Scope) (node : Node) : List Reading := node.pieces.flatMap (Part.readings scope)

/-- Whether a tree interpolates the cause. -/
def interpolates (node : Node) : Bool := node.pieces.any Part.interpolates

/-- A tree gives the same text against maps that agree on what it reads of them, if a cause that it interpolates
does. -/
theorem render_congr_of_agree {s t : Setting} (node : Node) (hcause : s.cause = t.cause)
    (hreadings : ∀ scope, ∀ reading ∈ node.readings scope, reading.Agree (s.params scope) (t.params scope))
    (hinterpolated : node.interpolates → s.causeText .passed = t.causeText .passed) :
    node.render s = node.render t := by
  apply node.render_congr
  intro part hpart
  have hagree (scope : Scope) (reading : Reading) (hreading : reading ∈ part.readings scope) :
      reading.Agree (s.params scope) (t.params scope) :=
    hreadings scope reading (List.mem_flatMap.2 ⟨part, hpart, hreading⟩)
  cases part with
  | literal text => trivial
  | field ref => exact Part.alike_field (hagree ref.scope)
  | head guard => exact Part.alike_head (hagree guard.scope)
  | wrap scope span =>
    cases scope with
    | own => exact Part.alike_own_wrap span hcause
    | passed => exact hinterpolated (List.any_eq_true.2 ⟨_, hpart, rfl⟩)

theorem readings_eq_nil {scope : Scope} {node : Node} (h : ∀ part ∈ node.pieces, part.sigil? ≠ some scope) :
    node.readings scope = [] := by
  rw [readings, List.flatMap_eq_nil_iff]
  intro part hpart
  have hsigil := h part hpart
  cases part with
  | field ref => exact if_neg fun heq => hsigil (congrArg some heq)
  | head guard => exact if_neg fun heq => hsigil (congrArg some heq)
  | _ => rfl

theorem not_interpolates {node : Node} (h : ∀ part ∈ node.pieces, part.sigil? ≠ some .passed) :
    ¬ node.interpolates := by
  intro hinterpolates
  obtain ⟨part, hpart, hwrap⟩ := List.any_eq_true.1 hinterpolates
  cases part with
  | wrap scope span =>
    cases scope with
    | own => cases hwrap
    | passed => exact h _ hpart rfl
  | _ => cases hwrap

end Node

namespace Template

/-- What a template reads of the map passed down, apart from what an interpolated cause reads. -/
theorem render_congr_passed (t : Template) (own : Params) (cause : Option Voice) {p q : Params}
    (hreadings : ∀ reading ∈ t.root.readings .passed, reading.Agree p q)
    (hinterpolated : t.root.interpolates →
      (⟨own, p, cause⟩ : Setting).causeText .passed = (⟨own, q, cause⟩ : Setting).causeText .passed) :
    t.render own p cause = t.render own q cause := by
  refine t.root.render_congr_of_agree rfl (fun scope => ?_) hinterpolated
  cases scope with
  | own => exact fun reading _ => reading.agree_self own
  | passed => exact hreadings

theorem render_congr_own (t : Template) (passed : Params) (cause : Option Voice) {own other : Params}
    (hreadings : ∀ reading ∈ t.root.readings .own, reading.Agree own other) :
    t.render own passed cause = t.render other passed cause := by
  refine t.root.render_congr_of_agree rfl (fun scope => ?_) fun _ => rfl
  cases scope with
  | own => exact hreadings
  | passed => exact fun reading _ => reading.agree_self passed

end Template

/-! ### Chains -/

namespace Fault

/-- What an annotated fault reads of the map passed down to it: what its template reads, and, if the template
interpolates the cause, what the cause reads. -/
def passedReadings : Fault → List Reading
  | .io .. => []
  | .foreign .. => []
  | .annotated _ template _ none => template.root.readings .passed
  | .annotated _ template _ (some c) =>
    template.root.readings .passed ++ if template.root.interpolates then c.passedReadings else []
  | .boxed inner => inner.passedReadings
termination_by structural f => f

/-- The message of a fault that can be interpolated, against maps that agree on what it reads. -/
theorem interpolate_congr {p q : Params} (f : Fault) (h : ∀ reading ∈ f.passedReadings, reading.Agree p q)
    {interpolate : Params → Verb.Formatted String} (hf : f.voice.interpolate = some interpolate) :
    interpolate p = interpolate q := by
  induction f generalizing interpolate with
  | io id error => cases hf
  | foreign id message cause => cases hf
  | boxed inner ih => exact ih h hf
  | annotated id template params cause ih =>
    cases cause with
    | none =>
      cases hf
      exact template.render_congr_passed params none h fun _ => rfl
    | some c =>
      cases hf
      obtain ⟨htemplate, hcause⟩ := List.forall_mem_append.1 h
      refine template.render_congr_passed params (some c.voice) htemplate fun hinterpolates => ?_
      -- only here does the map reach the cause, and so only here its readings count
      rw [if_pos hinterpolates] at hcause
      simp only [Setting.causeText]
      cases hvoice : c.voice.interpolate with
      | none => rfl
      | some interpolate => exact ih c rfl hcause hvoice

/-- Scopes stay apart. A message is the same against any two maps passed down that agree on what is read of them along
the chain, and against any two own maps that agree on what the template reads of them; a template without a directive
of the passed scope does not see what is passed down. -/
theorem message_eq_of_agree :
    (∀ (f : Fault) (a : Note), f.note? = some a → ∀ p q : Params,
        (∀ reading ∈ f.passedReadings, reading.Agree p q) → a.interpolate p = a.interpolate q) ∧
      (∀ (t : Template) (passed : Params) (cause : Option Voice) (own other : Params),
        (∀ reading ∈ t.root.readings .own, reading.Agree own other) →
          t.render own passed cause = t.render other passed cause) ∧
      ∀ (t : Template) (own : Params) (cause : Option Voice),
        (∀ part ∈ t.root.pieces, part.sigil? ≠ some .passed) →
          ∀ p q : Params, t.render own p cause = t.render own q cause := by
  refine ⟨fun f a hnote p q hagree => ?_, fun t passed cause own other hagree => ?_, fun t own cause hown p q => ?_⟩
  · exact f.interpolate_congr hagree (by rw [voice_of_note hnote])
  · exact t.render_congr_own passed cause hagree
  · refine t.render_congr_passed own cause ?_ fun hinterpolates => absurd hinterpolates (Node.not_interpolates hown)
    rw [Node.readings_eq_nil hown]
    simp

/-- A note that interpolates a boxed one. -/
def echoed : Note where
  template := Template.ofFormat "again: $w"
  params := .empty
  cause := some (boxed (annotated 1 (Template.ofFormat "$\x7bx\x7d of %\x7by\x7d") (.singleton "y" (.int 3)) none))

/-- Of two maps that are passed down, the inner note reads one name; a directive of the other scope reads neither. -/
theorem message_eq_of_agree_echoed :
    echoed.interpolate (.ofList [("x", .int 1)]) = echoed.interpolate (.ofList [("x", .int 1), ("y", .int 2)]) ∧
      (Template.ofFormat "$\x7bx\x7d").render .empty .empty none =
        (Template.ofFormat "$\x7bx\x7d").render (.singleton "x" (.int 1)) .empty none ∧
      (Template.ofFormat "%\x7bx\x7d").render .empty .empty none =
        (Template.ofFormat "%\x7bx\x7d").render .empty (.singleton "x" (.int 1)) none := by
  obtain ⟨hpassed, hown, hneither⟩ := message_eq_of_agree
  refine ⟨hpassed (annotate 0 echoed) echoed rfl _ _ ?_, hown _ _ _ _ _ ?_,
    hneither _ _ _ ?_ _ _⟩
  · have hread : (annotate 0 echoed).passedReadings = [.value "x"] := rfl
    rw [hread, List.forall_mem_singleton]
    rfl
  · exact fun reading hreading => absurd hreading List.not_mem_nil
  · have hpieces : (Template.ofFormat "%\x7bx\x7d").root.pieces = [.field ⟨.own, none, "x", ⟨0, 4⟩⟩] := rfl
    rw [hpieces, List.forall_mem_singleton]
    decide

end Fault

end Mishap
