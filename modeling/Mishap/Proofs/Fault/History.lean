import Mishap.Proofs.Fault.Chain
import Mishap.Proofs.Fault.Drafts

/-!
How faults are made: out of data alone, and then in layers, each a fault made of the one below it. Main statement: no
fault that is made so has a box around a box anywhere in its chain.
-/

namespace Mishap

/-- An operation that makes a fault out of data alone. -/
inductive Origin
  | io (error : IoError)
  | foreign (message : String)
  | ofRecord (format : String) (schema : Schema) (record : Record)
  | tryOfRecord (format : String) (schema : Schema) (record : Record)
  | ofParams (format : String) (params : Params)
  | tryOfParams (format : String) (params : Params)

namespace Origin

def make (id : Identity) : Origin → Attempt Fault
  | io error => .ok (.io id error)
  | foreign message => .ok (.foreign id message none)
  | ofRecord format schema record => (Fault.ofRecord id format schema record).map Handle.fault
  | tryOfRecord format schema record => (Fault.tryOfRecord id format schema record).map Handle.fault
  | ofParams format params => (Fault.ofParams id format params).map Handle.fault
  | tryOfParams format params => (Fault.tryOfParams id format params).map Handle.fault

/-- The data that the fault is given. -/
def data : Origin → Params
  | io _ => .empty
  | foreign _ => .empty
  | ofRecord _ schema record => schema.toParams record
  | tryOfRecord _ schema record => schema.toParams record
  | ofParams _ params => params
  | tryOfParams _ params => params

/-- What is made of data alone: a fault without data, or a note with just that data. -/
theorem make_eq_ok {origin : Origin} {id : Identity} {f : Fault} (h : origin.make id = .ok f) :
    (f.identity = id ∧ f.chain = [f] ∧ f.note? = none ∧ f.linkKind ≠ .boxed ∧ origin.data = .empty) ∨
      ∃ a : Note, f = Fault.annotate id a ∧ a.cause = none ∧ a.params = origin.data := by
  have hdraft (format : String) (params : Params) (schema : Schema) (caller : Caller) (eager : Bool)
      (h : (Draft.perform ⟨none, format, params, [], schema⟩ id caller eager).map Handle.fault = .ok f) :
      ∃ a : Note, f = Fault.annotate id a ∧ a.cause = none ∧ a.params = params := by
    obtain ⟨handle, hhandle, rfl⟩ := Attempt.map_eq_ok_iff.1 h
    obtain ⟨-, hparams, hcause, hfault, -⟩ := Draft.perform_eq_ok hhandle
    exact ⟨handle.note, hfault, hcause, hparams.trans (Flag.stacked_empty _ _)⟩
  cases origin with
  | io error =>
    cases h
    exact .inl ⟨rfl, rfl, rfl, nofun, rfl⟩
  | foreign message =>
    cases h
    exact .inl ⟨rfl, rfl, rfl, nofun, rfl⟩
  | ofRecord format schema record => exact .inr (hdraft format (schema.toParams record) schema .new false h)
  | tryOfRecord format schema record => exact .inr (hdraft format (schema.toParams record) schema .tryNew true h)
  | ofParams format params => exact .inr (hdraft format params .empty .withParams false h)
  | tryOfParams format params => exact .inr (hdraft format params .empty .tryWithParams true h)

end Origin

/-- An operation that annotates a cause. -/
inductive Wrapping
  | wrap (format : String) (schema : Schema) (record : Record) (flags : List Flag)
  | tryWrap (format : String) (schema : Schema) (record : Record) (flags : List Flag)
  | addData (schema : Schema) (record : Record) (flags : List Flag)
  | tryAddData (schema : Schema) (record : Record) (flags : List Flag)
  | wrapParams (format : String) (params : Params) (flags : List Flag)
  | tryWrapParams (format : String) (params : Params) (flags : List Flag)
  | addParam (name : String) (v : Value)

namespace Wrapping

def apply (id : Identity) (cause : Fault) : Wrapping → Attempt Handle
  | wrap format schema record flags => cause.wrap id format schema record flags
  | tryWrap format schema record flags => cause.tryWrap id format schema record flags
  | addData schema record flags => cause.addData id schema record flags
  | tryAddData schema record flags => cause.tryAddData id schema record flags
  | wrapParams format params flags => cause.wrapParams id format params flags
  | tryWrapParams format params flags => cause.tryWrapParams id format params flags
  | addParam name v => cause.addParam id name v

/-- What a wrapping adds to its cause, as a draft that the cause is still missing from. -/
def draft : Wrapping → Draft
  | wrap format schema record flags => ⟨none, format, schema.toParams record, flags, schema⟩
  | tryWrap format schema record flags => ⟨none, format, schema.toParams record, flags, schema⟩
  | addData schema record flags => ⟨none, "", schema.toParams record, flags, schema⟩
  | tryAddData schema record flags => ⟨none, "", schema.toParams record, flags, schema⟩
  | wrapParams format params flags => ⟨none, format, params, flags, .empty⟩
  | tryWrapParams format params flags => ⟨none, format, params, flags, .empty⟩
  | addParam name v => ⟨none, "", .singleton name v, [], .empty⟩

def caller : Wrapping → Caller
  | wrap .. => .wrap
  | tryWrap .. => .tryWrap
  | addData .. => .wrap
  | tryAddData .. => .tryWrap
  | wrapParams .. => .wrapWithParams
  | tryWrapParams .. => .tryWrapWithParams
  | addParam .. => .wrapWithParams

/-- Whether the template is checked and failures of the data are handed on. -/
def eager : Wrapping → Bool
  | tryWrap .. => true
  | tryAddData .. => true
  | tryWrapParams .. => true
  | _ => false

theorem apply_eq_perform (w : Wrapping) (id : Identity) (cause : Fault) :
    w.apply id cause = (w.draft.onto cause).perform id w.caller w.eager := by
  cases w <;> rfl

/-- What goes into a fault that annotates a cause. -/
theorem apply_eq_ok {w : Wrapping} {id : Identity} {cause : Fault} {handle : Handle}
    (h : w.apply id cause = .ok handle) :
    handle.fault = Fault.annotate id handle.note ∧ handle.note.cause = some cause ∧
      handle.note.params = Flag.stacked w.draft.flags w.draft.params cause.fields ∧
      handle.note.template.format = (if w.draft.format = "" then cause.defaultFormat else w.draft.format) ∧
      (.errorOnConflict ∈ w.draft.flags → w.draft.params.Compatible cause.fields) := by
  rw [apply_eq_perform] at h
  obtain ⟨hformat, hparams, hcause, hfault, hcompatible⟩ := Draft.perform_eq_ok h
  rw [Draft.resolveFormat_onto] at hformat
  exact ⟨hfault, hcause, hparams, (Except.ok.inj hformat).symm, hcompatible⟩

end Wrapping

/-- An operation that makes a fault of another one. -/
inductive Layer
  | foreign (message : String)
  | wrapping (w : Wrapping)
  | deleteField (name : String)
  | box
  | unbox
  | clone

namespace Layer

def apply (id : Identity) (below : Fault) : Layer → Attempt Fault
  | foreign message => .ok (.foreign id message (some below))
  | wrapping w => (w.apply id below).map Handle.fault
  | deleteField name => .ok (below.deleteField id name).fault
  | box => .ok below.box
  | unbox => .ok below.unbox
  | clone => .ok (below.clone id)

/-- Layers one above the other, the outermost first, each with the identity of the fault that it makes. -/
def applyAll : List (Identity × Layer) → Fault → Attempt Fault
  | [], bottom => .ok bottom
  | (id, layer) :: rest, bottom => do layer.apply id (← applyAll rest bottom)

/-- What holds of the bottom and is kept by every layer holds of the top. -/
theorem applyAll_invariant {layers : List (Identity × Layer)} {bottom top : Fault} {motive : Fault → Prop}
    (h : applyAll layers bottom = .ok top) (hbottom : motive bottom)
    (hstep : ∀ entry ∈ layers, ∀ f g, motive f → entry.2.apply entry.1 f = .ok g → motive g) : motive top := by
  induction layers generalizing top with
  | nil =>
    cases h
    exact hbottom
  | cons entry rest ih =>
    obtain ⟨hentry, hrest⟩ := List.forall_mem_cons.1 hstep
    obtain ⟨below, hbelow, h⟩ := Attempt.bind_eq_ok_iff.1 h
    exact hentry below top (ih hbelow hrest) h

end Layer

/-- How a fault is made: out of data alone and in layers above that, the outermost first. -/
structure History where
  id : Identity
  origin : Origin
  layers : List (Identity × Layer)

def History.fault (h : History) : Attempt Fault := do
  Layer.applyAll h.layers (← h.origin.make h.id)

/-! ### Boxes -/

namespace Layer

/-- Every operation keeps boxes from nesting. -/
theorem flat_apply {layer : Layer} {id : Identity} {f g : Fault} (hf : f.Flat) (h : layer.apply id f = .ok g) :
    g.Flat := by
  cases layer with
  | foreign message =>
    cases h
    exact Fault.flat_foreign_iff.2 hf
  | wrapping w =>
    obtain ⟨handle, hhandle, rfl⟩ := Attempt.map_eq_ok_iff.1 h
    obtain ⟨hfault, hcause, -⟩ := Wrapping.apply_eq_ok hhandle
    rw [hfault]
    exact Fault.flat_annotated_iff.2 (by simpa [hcause] using hf)
  | deleteField name =>
    cases h
    exact Fault.flat_annotated_iff.2 (by simpa using hf)
  | box =>
    cases h
    exact hf.box
  | unbox =>
    cases h
    exact hf.unbox
  | clone =>
    cases h
    exact hf.clone id

theorem flat_applyAll {layers : List (Identity × Layer)} {bottom f : Fault} (hbottom : bottom.Flat)
    (h : applyAll layers bottom = .ok f) : f.Flat := by
  refine applyAll_invariant h hbottom ?_
  intro entry _ below above hbelow happly
  exact flat_apply hbelow happly

end Layer

theorem Origin.flat_make {origin : Origin} {id : Identity} {f : Fault} (h : origin.make id = .ok f) : f.Flat := by
  rcases make_eq_ok h with ⟨-, hchain, -, hkind, -⟩ | ⟨a, rfl, hcause, -⟩
  · exact Fault.flat_of_chain hchain hkind
  · exact Fault.flat_annotated_iff.2 (by simp [hcause])

/-- No box around a box is ever made. -/
theorem History.flat {h : History} {f : Fault} (hf : h.fault = .ok f) : f.Flat := by
  obtain ⟨bottom, hbottom, hlayers⟩ := Attempt.bind_eq_ok_iff.1 hf
  exact Layer.flat_applyAll (Origin.flat_make hbottom) hlayers

end Mishap
