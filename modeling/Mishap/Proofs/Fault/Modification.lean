import Mishap.Proofs.Fault.History

/-!
Faults that modify another one: data is added or taken out, or a box put around, and the message is that of the fault
below. Main statement: however many such layers are above a fault, its own template renders the message, against the
parameters of the outermost layer; and no template of these layers can have a problem.
-/

namespace Mishap

/-! ### Ways to fail -/

/-- Whether a result, if it is a failure, is one of the given kind. -/
def FailsAs {ε α : Type} (p : ε → Prop) (x : Except ε α) : Prop := ∀ e, x = .error e → p e

namespace FailsAs

variable {ε α β : Type} {p : ε → Prop}

theorem ok (a : α) : FailsAs p (.ok a) := nofun

theorem error {e : ε} (h : p e) : FailsAs p (.error e : Except ε α) := by
  rintro _ ⟨⟩
  exact h

theorem bind {x : Except ε α} {f : α → Except ε β} (hx : FailsAs p x) (hf : ∀ a, x = .ok a → FailsAs p (f a)) :
    FailsAs p (x >>= f) := by
  cases x with
  | error e => exact error (hx e rfl)
  | ok a => exact hf a rfl

theorem mapM {f : α → Except ε β} {items : List α} (h : ∀ a ∈ items, FailsAs p (f a)) : FailsAs p (items.mapM f) := by
  induction items with
  | nil => exact ok []
  | cons a rest ih =>
    obtain ⟨ha, hrest⟩ := List.forall_mem_cons.1 h
    rw [List.mapM_cons]
    exact ha.bind fun _ _ => (ih hrest).bind fun _ _ => ok _

end FailsAs

/-- The problem of a format string, if it is that which failed. -/
def DataError.templateError? : DataError → Option TemplateError
  | template error => some error
  | _ => none

/-- The problem of a format string that an operation is refused for, as a failure or as a mistake of the caller. -/
def Refusal.templateError? : Refusal → Option TemplateError
  | data error => error.templateError?
  | usage ⟨_, .failed error⟩ => error.templateError?
  | usage _ => none

/-- Records are read without a template. -/
theorem Schema.read_failsAs (schema : Schema) (missing : MissingData) (params : Params) :
    FailsAs (·.templateError? = none) (schema.read missing params) := by
  refine FailsAs.mapM fun field _ => FailsAs.bind ?_ fun _ _ => FailsAs.ok _
  rw [Field.read.eq_def]
  split
  · split
    · exact FailsAs.ok _
    · exact FailsAs.error rfl
  · exact FailsAs.ok _
  · exact FailsAs.error rfl

namespace Attempt

variable {α : Type}

theorem failsAs_ofData {x : Except DataError α} (h : FailsAs (·.templateError? = none) x) :
    FailsAs (·.templateError? = none) (ofData x) := by
  cases x with
  | error e => exact FailsAs.error (h e rfl)
  | ok a => exact FailsAs.ok a

theorem failsAs_ofFlags (caller : Caller) (x : Except FlagFault α) :
    FailsAs (·.templateError? = none) (ofFlags caller x) := by
  cases x with
  | error e => exact FailsAs.error rfl
  | ok a => exact FailsAs.ok a

theorem failsAs_checkSchema (caller : Caller) (schema : Schema) :
    FailsAs (·.templateError? = none) (checkSchema caller schema) := by
  rw [checkSchema]
  split
  · exact FailsAs.error rfl
  · exact FailsAs.ok ()

theorem failsAs_insist {caller : Caller} {x : Attempt α} (h : FailsAs (·.templateError? = none) x) :
    FailsAs (·.templateError? = none) (insist caller x) := by
  rw [insist.eq_def]
  split
  · exact FailsAs.error (h (.data _) rfl)
  · exact h

end Attempt

/-! ### Relays -/

namespace Fault

/-- The message of a fault against the parameters passed down to it, if it can use them. -/
def against (f : Fault) (passed : Params) : Verb.Formatted String :=
  match f.voice.interpolate with
  | some interpolate => interpolate passed
  | none => f.message

theorem against_of_note {f : Fault} {a : Note} (h : f.note? = some a) : f.against = a.interpolate := by
  funext passed
  rw [against, voice_of_note h]

theorem defaultFormat_of_some {f : Fault} {interpolate : Params → Verb.Formatted String}
    (h : f.voice.interpolate = some interpolate) : f.defaultFormat = "$w" := by
  rw [defaultFormat, Voice.isInterpolatable, h, Option.isSome_some, if_pos rfl]

theorem defaultFormat_of_none {f : Fault} (h : f.voice.interpolate = none) : f.defaultFormat = "%w" := by
  rw [defaultFormat, Voice.isInterpolatable, h, Option.isSome_none, if_neg (by decide)]

end Fault

/-- Whether a note adds nothing to the message of the fault that it annotates: it has the default format. -/
def Note.Relays (a : Note) (f : Fault) : Prop := a.template = Template.ofFormat f.defaultFormat ∧ a.cause = some f

namespace Note.Relays

variable {a : Note} {f : Fault}

theorem interpolate_eq (h : a.Relays f) : a.interpolate = f.against := by
  funext passed
  rw [interpolate, voice?, h.1, h.2, Option.map_some, Fault.against]
  cases hvoice : f.voice.interpolate with
  | some interpolate =>
    have hcause : Setting.causeText ⟨a.params, passed, some f.voice⟩ .passed = interpolate passed := by
      simp only [Setting.causeText, hvoice]
    rw [Fault.defaultFormat_of_some hvoice]
    exact hcause
  | none =>
    rw [Fault.defaultFormat_of_none hvoice]
    rfl

/-- The template of a relay has what it asks for, whatever is passed down. -/
theorem verify_eq_ok (h : a.Relays f) (level : Level) (own passed : Params) :
    a.template.verify level ⟨own, passed, a.voice?⟩ = .ok () := by
  rw [voice?, h.1, h.2, Option.map_some]
  cases hvoice : f.voice.interpolate with
  | some interpolate =>
    have hroot : (Template.ofFormat "$w").root = .wrap .passed ⟨0, 2⟩ := rfl
    have herror : (Template.ofFormat "$w").error? = none := rfl
    have hproblem : Setting.wrapProblem? ⟨own, passed, some f.voice⟩ .passed = none := by
      simp only [Setting.wrapProblem?, Option.any_some, Voice.isInterpolatable, hvoice, Option.isSome_some, if_true]
    have hcheck : (Node.wrap .passed ⟨0, 2⟩).check level ⟨own, passed, some f.voice⟩ true = .ok () := by
      rw [Node.check, hproblem, Located.check, ite_self]
    rw [Fault.defaultFormat_of_some hvoice, Template.verify, herror, hroot, hcheck]
  | none =>
    -- the own scope asks for a cause only, whatever its voice
    rw [Fault.defaultFormat_of_none hvoice]
    cases level <;> rfl

theorem checkMessage_eq_ok (h : a.Relays f) (passed : Params) : a.checkMessage passed = .ok () :=
  h.verify_eq_ok .passed a.params passed

theorem checkOwn_eq_ok (h : a.Relays f) : Draft.checkOwn a = .ok () := by
  have hverify : a.template.verifyOwn a.params a.voice? = .ok () := h.verify_eq_ok .own a.params .empty
  rw [Draft.checkOwn, hverify]

end Note.Relays

namespace Draft

variable {draft : Draft} {f : Fault} {caller : Caller}

/-- What an empty format leads to. -/
theorem relays_of_outline (hformat : draft.format = "") {a : Note} (h : (draft.onto f).outline caller = .ok a) :
    a.Relays f := by
  obtain ⟨_, format, _, -, hresolved, -, rfl⟩ := outline_eq_ok h
  rw [resolveFormat_onto, if_pos hformat] at hresolved
  exact ⟨congrArg Template.ofFormat (Except.ok.inj hresolved).symm, rfl⟩

theorem failsAs_outline : FailsAs (·.templateError? = none) ((draft.onto f).outline caller) := by
  refine (Attempt.failsAs_checkSchema caller draft.schema).bind fun _ _ => ?_
  refine (Attempt.failsAs_ofFlags caller _).bind fun policy _ => ?_
  rw [resolveFormat_onto]
  refine (FailsAs.ok _).bind fun format _ => ?_
  refine (Attempt.failsAs_ofData ?_).bind fun params _ => FailsAs.ok _
  rw [mergedParams_eq]
  cases Params.merge policy (draft.onto f).params (draft.onto f).causeFields with
  | error conflict => exact FailsAs.error rfl
  | ok params => exact FailsAs.ok params

/-- A wrapping with an empty format is never refused for its template. -/
theorem failsAs_perform (hformat : draft.format = "") (id : Identity) (eager : Bool) :
    FailsAs (·.templateError? = none) ((draft.onto f).perform id caller eager) := by
  have hbuild : FailsAs (·.templateError? = none) ((draft.onto f).build id caller eager) := by
    rw [build_eq]
    refine failsAs_outline.bind fun a ha => ?_
    -- an eager build checks the template, which the default format always passes
    rw [settle, (relays_of_outline hformat ha).checkOwn_eq_ok, ite_self]
    refine (FailsAs.ok ()).bind fun _ _ => ?_
    exact (Attempt.failsAs_ofData (draft.schema.read_failsAs .isError a.params)).bind fun _ _ => FailsAs.ok _
  cases eager with
  | true => exact hbuild
  | false => exact Attempt.failsAs_insist hbuild

end Draft

/-! ### Layers above a fault -/

namespace Fault

/-- Whether a link is annotated and its message has what it asks for, whatever is passed down. -/
def Sound (link : Fault) : Prop := ∃ a : Note, link.note? = some a ∧ ∀ passed, a.checkMessage passed = .ok ()

/-- Whether a fault is another one with sound links above it, boxes apart. -/
def Extends (g f : Fault) : Prop :=
  ∃ added, g.chain.map unbox = added ++ f.chain.map unbox ∧ ∀ link ∈ added, link.Sound

variable {f g top : Fault}

theorem Extends.trans (htop : top.Extends g) (h : g.Extends f) : top.Extends f := by
  obtain ⟨upper, hupper, hsound⟩ := htop
  obtain ⟨lower, hlower, hsound'⟩ := h
  refine ⟨upper ++ lower, ?_, List.forall_mem_append.2 ⟨hsound, hsound'⟩⟩
  rw [hupper, hlower, List.append_assoc]

theorem extends_of_links (h : g.chain.map unbox = f.chain.map unbox) : g.Extends f :=
  ⟨[], h, fun _ hlink => absurd hlink List.not_mem_nil⟩

theorem Flat.against_of_no_note (h : f.Flat) (hnone : f.note? = none) (passed : Params) :
    f.against passed = f.message := by
  rw [against, h.voice_eq, hnone]
  rfl

theorem Flat.message_eq_against (h : f.Flat) : f.message = f.against f.fields := by
  cases hnote : f.note? with
  | none => exact (h.against_of_no_note hnote f.fields).symm
  | some a =>
    rw [against_of_note hnote, fields_of_note hnote, message, voice_of_note hnote]
    rfl

end Fault

namespace Layer

/-- Whether a layer modifies the fault below it without a message of its own. -/
def Modifies : Layer → Prop
  | wrapping w => w.draft.format = ""
  | deleteField _ => True
  | box => True
  | _ => False

variable {layer : Layer} {id : Identity} {f g : Fault}

/-- A modification boxes a fault, or relays it. -/
theorem apply_modifies (hlayer : layer.Modifies) (h : layer.apply id f = .ok g) :
    g = f.box ∨ ∃ a : Note, a.Relays f ∧ g = Fault.annotate id a := by
  cases layer with
  | wrapping w =>
    obtain ⟨handle, hhandle, rfl⟩ := Attempt.map_eq_ok_iff.1 h
    obtain ⟨hfault, hcause, -, hformat, -⟩ := Wrapping.apply_eq_ok hhandle
    have hempty : w.draft.format = "" := hlayer
    rw [if_pos hempty] at hformat
    exact .inr ⟨handle.note, ⟨Template.ext_format hformat, hcause⟩, hfault⟩
  | deleteField name =>
    cases h
    exact .inr ⟨(f.deleteField id name).note, ⟨rfl, rfl⟩, rfl⟩
  | box =>
    cases h
    exact .inl rfl
  | _ => exact hlayer.elim

theorem failsAs_apply (hlayer : layer.Modifies) (id : Identity) (f : Fault) :
    FailsAs (·.templateError? = none) (layer.apply id f) := by
  cases layer with
  | wrapping w =>
    have hperform : FailsAs (·.templateError? = none) (w.apply id f) := by
      rw [Wrapping.apply_eq_perform]
      exact Draft.failsAs_perform hlayer id w.eager
    exact hperform.bind fun handle _ => FailsAs.ok handle.fault
  | deleteField name => exact FailsAs.ok _
  | box => exact FailsAs.ok _
  | _ => exact hlayer.elim

/-- A modification renders as the fault below. -/
theorem against_apply (hlayer : layer.Modifies) (h : layer.apply id f = .ok g) : g.against = f.against := by
  rcases apply_modifies hlayer h with rfl | ⟨a, ha, rfl⟩
  · cases f <;> rfl
  · rw [Fault.against_of_note rfl]
    exact ha.interpolate_eq

/-- What a modification adds to the chain is a link whose message has what it asks for. -/
theorem extends_apply (hlayer : layer.Modifies) (h : layer.apply id f = .ok g) : g.Extends f := by
  rcases apply_modifies hlayer h with rfl | ⟨a, ha, rfl⟩
  · exact Fault.extends_of_links f.map_unbox_chain_box
  · refine ⟨[Fault.annotate id a], ?_, ?_⟩
    · rw [Fault.annotate, ha.2, Fault.chain_annotated]
      rfl
    · rw [List.forall_mem_singleton]
      exact ⟨a, rfl, ha.checkMessage_eq_ok⟩

variable {layers : List (Identity × Layer)}

theorem failsAs_applyAll (hlayers : ∀ entry ∈ layers, entry.2.Modifies) :
    FailsAs (·.templateError? = none) (applyAll layers f) := by
  induction layers with
  | nil => exact FailsAs.ok f
  | cons entry rest ih =>
    obtain ⟨hlayer, hrest⟩ := List.forall_mem_cons.1 hlayers
    exact (ih hrest).bind fun below _ => failsAs_apply hlayer entry.1 below

theorem against_applyAll (hlayers : ∀ entry ∈ layers, entry.2.Modifies) (h : applyAll layers f = .ok g) :
    g.against = f.against := by
  refine applyAll_invariant (motive := fun link => link.against = f.against) h rfl ?_
  intro entry hentry below above hbelow happly
  rw [against_apply (hlayers entry hentry) happly, hbelow]

theorem extends_applyAll (hlayers : ∀ entry ∈ layers, entry.2.Modifies) (h : applyAll layers f = .ok g) :
    g.Extends f := by
  refine applyAll_invariant (motive := fun link => link.Extends f) h (Fault.extends_of_links rfl) ?_
  intro entry hentry below above hbelow happly
  exact (extends_apply (hlayers entry hentry) happly).trans hbelow

end Layer

/-- Modifications keep the message: the template of the fault below them renders it, with what they add passed down.
None of them is refused for a template, and none of their own templates has a problem. -/
theorem History.message_modified (h : History) {f : Fault} (hf : h.fault = .ok f) {layers : List (Identity × Layer)}
    (hlayers : ∀ entry ∈ layers, entry.2.Modifies) :
    (∀ g, Layer.applyAll layers f = .ok g →
        (∀ a, f.note? = some a → g.message = a.interpolate g.fields) ∧ (f.note? = none → g.message = f.message) ∧
          ∃ added, g.chain.map Fault.unbox = added ++ f.chain.map Fault.unbox ∧
            ∀ link ∈ added, ∃ a : Note, link.note? = some a ∧ ∀ passed, a.checkMessage passed = .ok ()) ∧
      ∀ refusal, Layer.applyAll layers f = .error refusal → refusal.templateError? = none := by
  refine ⟨fun g hg => ?_, Layer.failsAs_applyAll hlayers⟩
  -- every layer hands down what it gets, and the outermost one gets its own parameters
  have hmessage : g.message = f.against g.fields := by
    rw [(Layer.flat_applyAll (h.flat hf) hg).message_eq_against, Layer.against_applyAll hlayers hg]
  refine ⟨fun a ha => ?_, fun hnone => ?_, Layer.extends_applyAll hlayers hg⟩
  · rw [hmessage, Fault.against_of_note ha]
  · rw [hmessage, (h.flat hf).against_of_no_note hnone]

/-- Two names are passed down to a note, one of them through a box, and one is taken out again. -/
def Layer.amendments : List (Identity × Layer) :=
  [(5, .deleteField "A"), (4, .wrapping (.addParam "A" (.int 2))), (3, .box),
    (2, .wrapping (.tryWrapParams "" (.singleton "B" (.int 3)) [.replacePreviousData]))]

def History.asking : History where
  id := 0
  origin := .io (.ofKind .timedOut)
  layers := [(1, .wrapping (.wrapParams "%\x7bA\x7d $\x7bB\x7d: %w" (.singleton "A" (.int 1)) []))]

theorem History.message_modified_asking :
    ∃ f g, History.asking.fault = .ok f ∧ Layer.applyAll Layer.amendments f = .ok g ∧
      g.message = .ok "1 3: timed out" := by
  have hlayers : ∀ entry ∈ Layer.amendments, entry.2.Modifies := by
    simp [Layer.amendments, Layer.Modifies, Wrapping.draft]
  obtain ⟨hok, -⟩ := History.message_modified History.asking rfl hlayers
  obtain ⟨hmessage, -, -⟩ := hok _ rfl
  exact ⟨_, _, rfl, rfl, (hmessage _ rfl).trans rfl⟩

end Mishap
