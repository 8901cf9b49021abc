import Mishap.Fault.Annotate

/-!
Faults link by link, and induction along the chain. Main statements: where no box is around a box, a fault has the voice
of its note, or none but a message if it has no note; the fields of a fault are those of its note, or else those of its
cause; and boxes, clones and foreign faults carry the fields of the fault they are made of.
-/

namespace Mishap.Fault

theorem chain_boxed (inner : Fault) : (boxed inner).chain = boxed inner :: inner.causes := rfl

theorem chain_foreign (id : Identity) (message : String) (c : Fault) :
    (foreign id message (some c)).chain = foreign id message (some c) :: c.chain := rfl

theorem chain_annotated (id : Identity) (template : Template) (params : Params) (c : Fault) :
    (annotated id template params (some c)).chain = annotated id template params (some c) :: c.chain := rfl

/-! ### Boxes -/

theorem identity_box (f : Fault) : f.box.identity = f.identity := by
  cases f <;> rfl

theorem unbox_box (f : Fault) : f.box.unbox = f.unbox := by
  cases f <;> rfl

theorem causes_box (f : Fault) : f.box.causes = f.causes := by
  cases f <;> rfl

theorem unbox_of_linkKind {f : Fault} (h : f.linkKind ≠ .boxed) : f.unbox = f := by
  cases f with
  | boxed inner => exact absurd rfl h
  | _ => rfl

theorem map_unbox_chain_box (f : Fault) : f.box.chain.map unbox = f.chain.map unbox := by
  rw [chain, chain, List.map_cons, List.map_cons, unbox_box, causes_box]

/-! ### Boxes around boxes -/

/-- Whether no link of the chain is a box around a box. -/
def Flat (f : Fault) : Prop := ∀ link ∈ f.chain, link.unbox.linkKind ≠ .boxed

theorem flat_of_chain {f : Fault} (hchain : f.chain = [f]) (hf : f.linkKind ≠ .boxed) : f.Flat := by
  rw [Flat, hchain, List.forall_mem_singleton]
  cases f <;> simp_all [unbox, linkKind]

theorem flat_foreign_iff {id : Identity} {message : String} {c : Fault} :
    (foreign id message (some c)).Flat ↔ c.Flat := by
  rw [Flat, chain_foreign, List.forall_mem_cons]
  simp [unbox, linkKind, Flat]

theorem flat_annotated_iff {id : Identity} {template : Template} {params : Params} {cause : Option Fault} :
    (annotated id template params cause).Flat ↔ ∀ c ∈ cause, c.Flat := by
  cases cause with
  | none => simp [Flat, chain, causes, unbox, linkKind]
  | some c =>
    rw [Flat, chain_annotated, List.forall_mem_cons]
    simp [unbox, linkKind, Flat]

theorem flat_boxed_iff {inner : Fault} : (boxed inner).Flat ↔ inner.linkKind ≠ .boxed ∧ inner.Flat := by
  rw [Flat, Flat, chain_boxed, chain, List.forall_mem_cons, List.forall_mem_cons]
  cases inner <;> simp [unbox, linkKind]

theorem Flat.box {f : Fault} (h : f.Flat) : f.box.Flat := by
  cases f with
  | boxed inner => exact h
  | _ => exact flat_boxed_iff.2 ⟨nofun, h⟩

theorem Flat.unbox {f : Fault} (h : f.Flat) : f.unbox.Flat := by
  cases f with
  | boxed inner => exact (flat_boxed_iff.1 h).2
  | _ => exact h

theorem Flat.clone {f : Fault} (h : f.Flat) (id : Identity) : (f.clone id).Flat := by
  cases f with
  | annotated _ template params cause => exact flat_annotated_iff.2 (flat_annotated_iff.1 h)
  | boxed inner =>
    cases inner with
    | annotated _ template params cause => exact flat_annotated_iff.2 (flat_annotated_iff.1 h.unbox)
    | _ => exact h
  | _ => exact h

/-! ### Causes -/

/-- What a fault was made of. A box passes for the fault inside. -/
def cause? : Fault → Option Fault
  | .io .. => none
  | .foreign _ _ cause => cause
  | .annotated _ _ _ cause => cause
  | .boxed inner => inner.cause?

theorem causes_eq (f : Fault) : f.causes = f.cause?.elim [] chain := by
  induction f with
  | io id error => rfl
  | foreign id message cause _ => cases cause <;> rfl
  | annotated id template params cause _ => cases cause <;> rfl
  | boxed inner ih => exact ih

theorem cause?_unbox (f : Fault) : f.unbox.cause? = f.cause? := by
  cases f <;> rfl

/-- A fault with a note is annotated, or a box around one that is. -/
theorem unbox_of_note {f : Fault} {a : Note} (h : f.note? = some a) : ∃ id, f.unbox = annotate id a := by
  rw [note?] at h
  split at h
  · next id template params cause hunbox =>
    cases h
    exact ⟨id, hunbox⟩
  · cases h

theorem cause?_of_note {f : Fault} {a : Note} (h : f.note? = some a) : f.cause? = a.cause := by
  obtain ⟨id, hunbox⟩ := unbox_of_note h
  rw [← cause?_unbox, hunbox]
  rfl

/-- Induction along the chain. -/
theorem induct_cause {motive : Fault → Prop} (step : ∀ f, (∀ c, f.cause? = some c → motive c) → motive f)
    (f : Fault) : motive f := by
  -- what is shown of a fault is the motive of its cause, which is also that of a box around the fault
  apply step
  induction f with
  | io id error => nofun
  | foreign id message cause ih => exact fun c hc => step c (ih c hc)
  | annotated id template params cause ih => exact fun c hc => step c (ih c hc)
  | boxed inner ih => exact ih

theorem chain_of_cause {f c : Fault} (h : f.cause? = some c) : f.chain = f :: c.chain := by
  rw [chain, causes_eq, h]
  rfl

theorem cause?_of_chain {f : Fault} (h : f.chain = [f]) : f.cause? = none := by
  cases hcause : f.cause? with
  | none => rfl
  | some c =>
    rw [chain_of_cause hcause] at h
    cases h

theorem Flat.of_cause {f c : Fault} (hf : f.Flat) (h : f.cause? = some c) : c.Flat := by
  intro link hlink
  apply hf
  rw [chain_of_cause h]
  exact List.mem_cons_of_mem f hlink

/-! ### Notes and voices -/

theorem voice_unbox (f : Fault) : f.unbox.voice = f.voice := by
  cases f <;> rfl

theorem voice_of_note {f : Fault} {a : Note} (h : f.note? = some a) : f.voice = ⟨a.message, some a.interpolate⟩ := by
  obtain ⟨id, hunbox⟩ := unbox_of_note h
  obtain ⟨template, params, cause⟩ := a
  rw [← voice_unbox, hunbox]
  cases cause <;> rfl

/-- The voice of a fault is its message, and, if it is annotated, its way of rendering that. -/
theorem Flat.voice_eq {f : Fault} (h : f.Flat) : f.voice = ⟨f.message, f.note?.map Note.interpolate⟩ := by
  cases hnote : f.note? with
  | some a =>
    rw [message, voice_of_note hnote]
    rfl
  | none =>
    cases f with
    | annotated => cases hnote
    | boxed inner =>
      cases inner with
      | annotated => cases hnote
      -- a note two boxes deep would have its voice, but no note
      | boxed inner => exact absurd rfl (flat_boxed_iff.1 h).1
      | _ => rfl
    | _ => rfl

/-! ### Fields -/

theorem dataLink?_of_note {f : Fault} {a : Note} (h : f.note? = some a) : f.dataLink? = some a := by
  rw [dataLink?, chain, List.findSome?_cons, h]

theorem fields_of_note {f : Fault} {a : Note} (h : f.note? = some a) : f.fields = a.params := by
  rw [fields, dataLink?_of_note h]

theorem fields_annotate (id : Identity) (a : Note) : (annotate id a).fields = a.params := fields_of_note rfl

theorem fields_foreign (id : Identity) (message : String) (c : Fault) :
    (foreign id message (some c)).fields = c.fields := by
  rw [fields, fields, dataLink?, chain_foreign, List.findSome?_cons]
  rfl

theorem fields_of_chain {f : Fault} (hchain : f.chain = [f]) (hnote : f.note? = none) : f.fields = .empty := by
  rw [fields, dataLink?, hchain, List.findSome?_singleton, hnote]

theorem fields_boxed {inner : Fault} (h : inner.linkKind ≠ .boxed) : (boxed inner).fields = inner.fields := by
  cases inner with
  | boxed inner => exact absurd rfl h
  | _ => rfl

theorem fields_box (f : Fault) : f.box.fields = f.fields := by
  cases f <;> rfl

theorem Flat.fields_unbox {f : Fault} (h : f.Flat) : f.unbox.fields = f.fields := by
  cases f with
  | boxed inner => exact (fields_boxed (flat_boxed_iff.1 h).1).symm
  | _ => rfl

theorem clone_of_note {f : Fault} {a : Note} (h : f.note? = some a) (id : Identity) : f.clone id = annotate id a := by
  rw [clone, h]

theorem clone_of_no_note {f : Fault} (h : f.note? = none) (id : Identity) : f.clone id = f := by
  rw [clone, h]

theorem fields_clone (f : Fault) (id : Identity) : (f.clone id).fields = f.fields := by
  cases hnote : f.note? with
  | none => rw [clone_of_no_note hnote]
  | some a => rw [clone_of_note hnote, fields_annotate, fields_of_note hnote]

end Mishap.Fault
