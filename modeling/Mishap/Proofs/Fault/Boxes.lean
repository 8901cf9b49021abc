import Mishap.Proofs.Fault.View

/-!
Boxes. A box shows what the fault inside shows, and whatever is made of the one shows what the same operations make of
the other. Main statement: boxes never nest, no query but for the kind of the link itself tells a box from the fault
inside, and no operation above it does.
-/

namespace Mishap

namespace Note

/-- What a note shows of itself, its cause apart. -/
structure Sight where
  params : Params
  format : String
  checkMessage : Params → Except TemplateError Unit
  interpolate : Params → Verb.Formatted String

def sight (a : Note) : Sight := ⟨a.params, a.template.format, a.checkMessage, a.interpolate⟩

theorem sight_eq {a b : Note} (htemplate : a.template = b.template) (hparams : a.params = b.params)
    (hvoice : a.voice? = b.voice?) : a.sight = b.sight := by
  have hcheck : a.checkMessage = b.checkMessage := by
    funext passed
    rw [checkMessage, checkMessage, htemplate, hparams, hvoice]
  have hinterpolate : a.interpolate = b.interpolate := by
    funext passed
    rw [interpolate, interpolate, htemplate, hparams, hvoice]
  rw [sight, sight, hparams, htemplate, hcheck, hinterpolate]

end Note

namespace Fault

/-- What a fault shows: its message, all its data, and its note if it is annotated. -/
structure Sight where
  message : Verb.Formatted String
  fields : Params
  note? : Option Note.Sight

def sight (f : Fault) : Sight := ⟨f.message, f.fields, f.note?.map Note.sight⟩

theorem sight_annotate (id : Identity) (a : Note) :
    (annotate id a).sight = ⟨a.sight.interpolate a.sight.params, a.sight.params, some a.sight⟩ := by
  have hnote : (annotate id a).note? = some a := rfl
  rw [sight, message, voice_of_note hnote, fields_of_note hnote, hnote]
  rfl

theorem sight_annotate_congr (id : Identity) {a b : Note} (h : a.sight = b.sight) :
    (annotate id a).sight = (annotate id b).sight := by
  rw [sight_annotate, sight_annotate, h]

theorem sight_foreign (id : Identity) (text : String) (c : Fault) :
    (foreign id text (some c)).sight = ⟨.ok text, c.sight.fields, none⟩ := by
  rw [sight, fields_foreign]
  rfl

theorem sight_box (f : Fault) : f.box.sight = f.sight := by
  cases f <;> rfl

theorem Flat.sight_unbox {f : Fault} (h : f.Flat) : f.unbox.sight = f.sight := by
  cases f with
  | boxed inner =>
    cases inner with
    | boxed inner => exact absurd rfl (flat_boxed_iff.1 h).1
    | _ => rfl
  | _ => rfl

theorem sight_clone (f : Fault) (id : Identity) : (f.clone id).sight = f.sight := by
  rw [clone]
  cases hnote : f.note? with
  | none => rfl
  | some a =>
    rw [sight_annotate, sight, message, voice_of_note hnote, fields_of_note hnote, hnote]
    rfl

/-- What a template can ask of a fault is part of what the fault shows. -/
theorem Flat.voice_eq_of_sight {f g : Fault} (hf : f.Flat) (hg : g.Flat) (h : f.sight = g.sight) :
    f.voice = g.voice := by
  have hmessage : f.message = g.message := congrArg Sight.message h
  have hinterpolate : f.note?.map Note.interpolate = g.note?.map Note.interpolate := by
    have hnote := congrArg (fun s : Sight => s.note?.map Note.Sight.interpolate) h
    simpa [sight, Option.map_map, Function.comp_def, Note.sight] using hnote
  rw [hf.voice_eq, hg.voice_eq, hmessage, hinterpolate]

end Fault

/-! ### What is made of faults that show the same -/

namespace Attempt

variable {α β γ : Type}

theorem map_map (x : Attempt α) (f : α → β) (k : β → γ) : (x.map f).map k = x.map fun a => k (f a) := by
  cases x <;> rfl

theorem map_insist (x : Attempt α) (caller : Caller) (k : α → β) :
    (insist caller x).map k = insist caller (x.map k) := by
  rcases x with (_ | _) | _ <;> rfl

theorem map_bind (x : Attempt α) (f : α → Attempt β) (k : β → γ) :
    (x >>= f).map k = x >>= fun a => (f a).map k := by
  cases x <;> rfl

/-- Two runs that show the same go on to show the same, if one step further does. -/
theorem map_bind_congr {x y : Attempt α} {f : α → Attempt β} {k : α → γ} {l : β → γ} (h : x.map k = y.map k)
    (hstep : ∀ a b, x = .ok a → y = .ok b → k a = k b → (f a).map l = (f b).map l) :
    (x >>= f).map l = (y >>= f).map l := by
  cases x with
  | error refusal =>
    cases y with
    | error other =>
      cases h
      rfl
    | ok b => cases h
  | ok a =>
    cases y with
    | error other => cases h
    | ok b => exact hstep a b rfl rfl (Except.ok.inj h)

end Attempt

namespace Draft

variable {f g : Fault}

theorem outline_onto (draft : Draft) (caller : Caller) (hvoice : f.voice = g.voice) (hfields : f.fields = g.fields) :
    (draft.onto f).outline caller =
      ((draft.onto g).outline caller).map fun a => { a with cause := some f } := by
  have hformat : (draft.onto f).resolveFormat caller = (draft.onto g).resolveFormat caller := by
    rw [resolveFormat_onto, resolveFormat_onto, Fault.defaultFormat, Fault.defaultFormat, hvoice]
  have hparams (policy : Params.MergePolicy) :
      (draft.onto f).mergedParams policy = (draft.onto g).mergedParams policy := by
    rw [mergedParams_eq, mergedParams_eq]
    simp only [onto, causeFields, Option.map_some, hfields]
  simp only [outline, Attempt.map_bind, hformat, hparams]
  rfl

theorem settle_congr (schema : Schema) (id : Identity) (eager : Bool) {a b : Note} (htemplate : a.template = b.template)
    (hparams : a.params = b.params) (hvoice : a.voice? = b.voice?) :
    (settle schema id eager a).map (·.fault.sight) = (settle schema id eager b).map (·.fault.sight) := by
  have hcheck : checkOwn a = checkOwn b := by rw [checkOwn, checkOwn, htemplate, hparams, hvoice]
  have hsight : (Fault.annotate id a).sight = (Fault.annotate id b).sight :=
    Fault.sight_annotate_congr id (Note.sight_eq htemplate hparams hvoice)
  simp only [settle, Attempt.map_bind, hcheck, hparams]
  congr 1
  funext _
  congr 1
  funext record
  exact congrArg Except.ok hsight

/-- What is built around a cause depends on what the cause shows only. -/
theorem sight_perform_onto (draft : Draft) (id : Identity) (caller : Caller) (eager : Bool) (hvoice : f.voice = g.voice)
    (hfields : f.fields = g.fields) :
    ((draft.onto f).perform id caller eager).map (·.fault.sight) =
      ((draft.onto g).perform id caller eager).map (·.fault.sight) := by
  have hbuild : ((draft.onto f).build id caller eager).map (·.fault.sight) =
      ((draft.onto g).build id caller eager).map (·.fault.sight) := by
    rw [build_eq, build_eq, Attempt.map_bind, Attempt.map_bind, outline_onto draft caller hvoice hfields]
    cases houtline : (draft.onto g).outline caller with
    | error refusal => rfl
    | ok a =>
      have hcause : a.cause = some g := by
        obtain ⟨_, _, _, -, -, -, rfl⟩ := outline_eq_ok houtline
        rfl
      refine settle_congr draft.schema id eager rfl rfl ?_
      rw [Note.voice?, Note.voice?, hcause, Option.map_some, Option.map_some, hvoice]
  cases eager with
  | true => exact hbuild
  | false =>
    rw [perform, perform, if_neg (by decide), if_neg (by decide), insist, insist, Attempt.map_insist,
      Attempt.map_insist, hbuild]

end Draft

namespace Layer

/-- What is made of faults that show the same shows the same. -/
theorem sight_apply_congr (layer : Layer) (id : Identity) {f g : Fault} (hf : f.Flat) (hg : g.Flat)
    (h : f.sight = g.sight) : (layer.apply id f).map Fault.sight = (layer.apply id g).map Fault.sight := by
  have hvoice : f.voice = g.voice := hf.voice_eq_of_sight hg h
  have hfields : f.fields = g.fields := congrArg Fault.Sight.fields h
  cases layer with
  | foreign message =>
    have hsight : (Fault.foreign id message (some f)).sight = (Fault.foreign id message (some g)).sight := by
      rw [Fault.sight_foreign, Fault.sight_foreign, h]
    exact congrArg Except.ok hsight
  | wrapping w =>
    rw [apply, apply, Attempt.map_map, Attempt.map_map, Wrapping.apply_eq_perform, Wrapping.apply_eq_perform]
    exact Draft.sight_perform_onto w.draft id w.caller w.eager hvoice hfields
  | deleteField name =>
    have hformat : f.defaultFormat = g.defaultFormat := by rw [Fault.defaultFormat, Fault.defaultFormat, hvoice]
    have hnote : (f.deleteField id name).note.sight = (g.deleteField id name).note.sight :=
      Note.sight_eq (congrArg Template.ofFormat hformat) (congrArg (Params.erase · name) hfields) (congrArg some hvoice)
    exact congrArg Except.ok (Fault.sight_annotate_congr id hnote)
  | box =>
    have hsight : f.box.sight = g.box.sight := by rw [f.sight_box, g.sight_box, h]
    exact congrArg Except.ok hsight
  | unbox =>
    have hsight : f.unbox.sight = g.unbox.sight := by rw [hf.sight_unbox, hg.sight_unbox, h]
    exact congrArg Except.ok hsight
  | clone =>
    have hsight : (f.clone id).sight = (g.clone id).sight := by rw [f.sight_clone, g.sight_clone, h]
    exact congrArg Except.ok hsight

theorem sight_applyAll_congr (layers : List (Identity × Layer)) {f g : Fault} (hf : f.Flat) (hg : g.Flat)
    (h : f.sight = g.sight) : (applyAll layers f).map Fault.sight = (applyAll layers g).map Fault.sight := by
  induction layers with
  | nil => exact congrArg Except.ok h
  | cons entry rest ih =>
    -- a voice is part of what a fault shows only where no box nests, so both runs below are kept flat
    refine Attempt.map_bind_congr ih fun below other hbelow hother hsight => ?_
    exact entry.2.sight_apply_congr entry.1 (flat_applyAll hf hbelow) (flat_applyAll hg hother) hsight

end Layer

/-! ### Boxes -/

namespace Fault

theorem is_box_left (f target : Fault) : f.box.is target = f.is target := by
  rw [is, is, chain, chain, List.any_cons, List.any_cons, causes_box, sameIdentity, sameIdentity, identity_box]

theorem is_box_right (f target : Fault) : f.is target.box = f.is target := by
  simp only [is, sameIdentity, identity_box]

/-- Nothing tells one fault from the other except the kind of the outermost link as it stands. -/
structure Indistinct (f g : Fault) : Prop where
  message : f.message = g.message
  fields : f.fields = g.fields
  field? : ∀ name, f.field? name = g.field? name
  hasField : ∀ name, f.hasField name = g.hasField name
  project : ∀ schema flags, f.project schema flags = g.project schema flags
  length : f.chain.length = g.chain.length
  links : f.chain.map unbox = g.chain.map unbox
  is : ∀ target, f.is target = g.is target
  isIn : ∀ top : Fault, top.is f = top.is g
  find? : ∀ kind, f.find? kind = g.find? kind
  above : ∀ layers, (Layer.applyAll layers f).map sight = (Layer.applyAll layers g).map sight

theorem Flat.indistinct_box {f : Fault} (h : f.Flat) : f.box.Indistinct f where
  message := congrArg Sight.message f.sight_box
  fields := f.fields_box
  field? name := by rw [Fault.field?, Fault.field?, fields_box]
  hasField name := by rw [Fault.hasField, Fault.hasField, fields_box]
  project schema flags := by rw [Fault.project, Fault.project, fields_box]
  length := by rw [chain, chain, List.length_cons, List.length_cons, causes_box]
  links := f.map_unbox_chain_box
  is := f.is_box_left
  isIn top := top.is_box_right f
  find? kind := by rw [Fault.find?, Fault.find?, map_unbox_chain_box]
  above layers := Layer.sight_applyAll_congr layers h.box h f.sight_box

end Fault

/-- Boxes are seen through, and never nest. -/
theorem History.box_indistinct (h : History) {f : Fault} (hf : h.fault = .ok f) :
    (∀ link ∈ f.chain, link.unbox.linkKind ≠ .boxed) ∧ f.box.linkKind = .boxed ∧ f.box.unbox = f.unbox ∧
      f.box.box = f.box ∧ f.box.Indistinct f := by
  have hkind : f.box.linkKind = .boxed := by cases f <;> rfl
  have hbox : f.box.box = f.box := by cases f <;> rfl
  exact ⟨h.flat hf, hkind, f.unbox_box, hbox, (h.flat hf).indistinct_box⟩

/-- A note around a boxed failure of a device. -/
def History.noted : History where
  id := 0
  origin := .io (.ofKind .notFound)
  layers := [(2, .wrapping (.wrapParams "opening %\x7bpath\x7d: %w" (.singleton "path" (.text "a.txt")) [])), (1, .box)]

theorem History.box_indistinct_noted :
    ∃ f, History.noted.fault = .ok f ∧ f.linkKind = .annotated ∧ f.box.linkKind = .boxed ∧
      f.box.fields = .singleton "path" (.text "a.txt") ∧ f.box.Indistinct f := by
  obtain ⟨-, hkind, -, -, hbox⟩ := History.box_indistinct History.noted rfl
  exact ⟨_, rfl, rfl, hkind, hbox.fields.trans rfl, hbox⟩

end Mishap
