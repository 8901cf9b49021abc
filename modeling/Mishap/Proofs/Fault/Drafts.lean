import Mishap.Fault.Annotate
import Mishap.Proofs.Params.Merging

/-!
What a draft becomes. Main statement: a fault that is built has the parameters of the draft merged with the fields of
its cause, over them or under them as the flags say, the format of the draft or the default one, and the cause it was
given.
-/

namespace Mishap

namespace Attempt

variable {α β : Type}

theorem bind_eq_ok_iff {x : Attempt α} {f : α → Attempt β} {b : β} :
    (x >>= f) = .ok b ↔ ∃ a, x = .ok a ∧ f a = .ok b := by
  cases x with
  | error refusal =>
    constructor
    · intro h
      cases h
    · rintro ⟨a, ha, -⟩
      cases ha
  | ok a =>
    constructor
    · exact fun h => ⟨a, rfl, h⟩
    · rintro ⟨a, ha, h⟩
      cases ha
      exact h

theorem ofFlags_eq_ok_iff {caller : Caller} {x : Except FlagFault α} {a : α} :
    ofFlags caller x = .ok a ↔ x = .ok a := by
  cases x <;> simp [ofFlags]

theorem ofData_eq_ok_iff {x : Except DataError α} {a : α} : ofData x = .ok a ↔ x = .ok a := by
  cases x <;> simp [ofData]

theorem map_eq_ok_iff {x : Attempt α} {f : α → β} {b : β} : x.map f = .ok b ↔ ∃ a, x = .ok a ∧ f a = b := by
  cases x <;> simp [Except.map]

theorem insist_eq_ok_iff {caller : Caller} {x : Attempt α} {a : α} : x.insist caller = .ok a ↔ x = .ok a := by
  rw [insist.eq_def]
  split <;> simp

end Attempt

/-! ### Flags -/

namespace Flag

theorem agreed_eq_ok {flags : List Flag} {found : Option Flag} (h : agreed flags = .ok found) (flag : Flag) :
    flag ∈ flags ↔ found = some flag := by
  cases flags with
  | nil =>
    cases h
    simp
  | cons first rest =>
    rw [agreed] at h
    split at h
    · cases h
    · next hother =>
      cases h
      rw [List.find?_eq_none] at hother
      have hrest : ∀ other ∈ rest, other = first := by simpa using hother
      rw [List.mem_cons, Option.some.injEq]
      constructor
      · rintro (rfl | hmem)
        · rfl
        · exact (hrest flag hmem).symm
      · exact fun heq => .inl heq.symm

/-- New data over previous data, or, where the previous data is preferred, under it. -/
def stacked (flags : List Flag) (new previous : Params) : Params :=
  if preferPreviousData ∈ flags then previous.atop new else new.atop previous

theorem stacked_empty (flags : List Flag) (new : Params) : stacked flags new .empty = new := by
  rw [stacked, Params.empty_atop, Params.atop_empty, ite_self]

/-- The policy that the flags ask for. -/
theorem mergePolicy_eq_ok {flags : List Flag} {policy : Params.MergePolicy} (h : mergePolicy flags = .ok policy) :
    (preferPreviousData ∈ flags ↔ policy = .keepPrevious) ∧ (errorOnConflict ∈ flags ↔ policy = .errorOnConflict) := by
  rw [mergePolicy] at h
  cases hallowed : checkAllowed forMerging flags with
  | error fault =>
    rw [hallowed] at h
    cases h
  | ok u =>
    cases hagreed : agreed flags with
    | error fault =>
      rw [hallowed, hagreed] at h
      cases h
    | ok found =>
      rw [hallowed, hagreed] at h
      rw [agreed_eq_ok hagreed, agreed_eq_ok hagreed]
      rcases found with _ | _ | _ <;> cases h <;> simp

end Flag

/-! ### Drafts -/

namespace Draft

/-- The draft with another cause. -/
def onto (draft : Draft) (cause : Fault) : Draft := { draft with cause := some cause }

theorem resolveFormat_onto (draft : Draft) (cause : Fault) (caller : Caller) :
    (draft.onto cause).resolveFormat caller =
      .ok (if draft.format = "" then cause.defaultFormat else draft.format) := by
  rw [resolveFormat, onto]
  split <;> rfl

/-- The data of the cause, none without a cause. -/
def causeFields (draft : Draft) : Params := (draft.cause.map Fault.fields).getD .empty

theorem causeFields_eq_params (draft : Draft) :
    draft.causeFields = ((draft.cause.bind Fault.dataLink?).map Note.params).getD .empty := by
  rw [causeFields]
  cases draft.cause with
  | none => rfl
  | some c =>
    rw [Option.map_some, Option.getD_some, Fault.fields, Option.bind_some]
    cases c.dataLink? <;> rfl

/-- Without an annotated link the cause has no data, and there is nothing to merge. -/
theorem mergedParams_eq (draft : Draft) (policy : Params.MergePolicy) :
    draft.mergedParams policy = (draft.params.merge policy draft.causeFields).mapError .mergeConflict := by
  rw [causeFields_eq_params, mergedParams]
  cases draft.cause.bind Fault.dataLink? with
  | none => rfl
  | some link =>
    rw [Option.map_some, Option.getD_some]
    dsimp only
    cases draft.params.merge policy link.params <;> rfl

variable {draft : Draft} {id : Identity} {caller : Caller} {eager : Bool} {handle : Handle}

theorem mergedParams_eq_ok {policy : Params.MergePolicy} {params : Params}
    (hpolicy : Flag.mergePolicy draft.flags = .ok policy) (h : draft.mergedParams policy = .ok params) :
    params = Flag.stacked draft.flags draft.params draft.causeFields ∧
      (.errorOnConflict ∈ draft.flags → draft.params.Compatible draft.causeFields) := by
  obtain ⟨hprefer, hconflict⟩ := Flag.mergePolicy_eq_ok hpolicy
  rw [mergedParams_eq] at h
  cases hmerge : draft.params.merge policy draft.causeFields with
  | error conflict =>
    rw [hmerge] at h
    cases h
  | ok merged =>
    rw [hmerge] at h
    cases h
    rw [Flag.stacked, hconflict]
    refine ⟨?_, ?_⟩
    · by_cases hkeep : policy = .keepPrevious
      · rw [if_pos (hprefer.2 hkeep)]
        rw [hkeep, Params.merge_keepPrevious] at hmerge
        exact (Except.ok.inj hmerge).symm
      · rw [if_neg fun hmem => hkeep (hprefer.1 hmem)]
        exact Params.eq_atop_of_merge hkeep hmerge
    · rintro rfl
      exact Params.compatible_of_merge hmerge

/-- The note that a draft leads to, before it is checked against the schema and, eagerly, its own template. -/
def outline (draft : Draft) (caller : Caller) : Attempt Note := do
  Attempt.checkSchema caller draft.schema
  let policy ← Attempt.ofFlags caller (Flag.mergePolicy draft.flags)
  let format ← draft.resolveFormat caller
  let params ← Attempt.ofData (draft.mergedParams policy)
  return ⟨Template.ofFormat format, params, draft.cause⟩

/-- The fault of a note that passes the checks. -/
def settle (schema : Schema) (id : Identity) (eager : Bool) (a : Note) : Attempt Handle := do
  Attempt.ofData (if eager then checkOwn a else .ok ())
  let record ← Attempt.ofData (schema.read .isError a.params)
  return ⟨Fault.annotate id a, a, record⟩

theorem build_eq (draft : Draft) (id : Identity) (caller : Caller) (eager : Bool) :
    draft.build id caller eager = draft.outline caller >>= settle draft.schema id eager := by
  cases eager <;> simp only [build, outline, settle, bind_assoc, pure_bind] <;> rfl

theorem settle_eq_ok {schema : Schema} {a : Note} (h : settle schema id eager a = .ok handle) :
    handle.note = a ∧ handle.fault = Fault.annotate id a := by
  obtain ⟨_, -, h⟩ := Attempt.bind_eq_ok_iff.1 h
  obtain ⟨record, -, h⟩ := Attempt.bind_eq_ok_iff.1 h
  cases h
  exact ⟨rfl, rfl⟩

theorem outline_eq_ok {a : Note} (h : draft.outline caller = .ok a) :
    ∃ policy format params, Flag.mergePolicy draft.flags = .ok policy ∧ draft.resolveFormat caller = .ok format ∧
      draft.mergedParams policy = .ok params ∧ a = ⟨Template.ofFormat format, params, draft.cause⟩ := by
  obtain ⟨_, -, h⟩ := Attempt.bind_eq_ok_iff.1 h
  obtain ⟨policy, hpolicy, h⟩ := Attempt.bind_eq_ok_iff.1 h
  obtain ⟨format, hformat, h⟩ := Attempt.bind_eq_ok_iff.1 h
  obtain ⟨params, hparams, h⟩ := Attempt.bind_eq_ok_iff.1 h
  cases h
  exact ⟨policy, format, params, Attempt.ofFlags_eq_ok_iff.1 hpolicy, hformat, Attempt.ofData_eq_ok_iff.1 hparams, rfl⟩

/-- Hands the failures of the data on, or insists on a fault. -/
def perform (draft : Draft) (id : Identity) (caller : Caller) (eager : Bool) : Attempt Handle :=
  if eager then draft.attempt id caller else draft.insist id caller

theorem perform_eq_ok_iff : draft.perform id caller eager = .ok handle ↔ draft.build id caller eager = .ok handle := by
  cases eager with
  | true => rfl
  | false => exact Attempt.insist_eq_ok_iff

/-- What goes into a fault that is built: the data of the draft and that of its cause, one over the other, and the
cause itself. -/
theorem perform_eq_ok (h : draft.perform id caller eager = .ok handle) :
    draft.resolveFormat caller = .ok handle.note.template.format ∧
      handle.note.params = Flag.stacked draft.flags draft.params draft.causeFields ∧
      handle.note.cause = draft.cause ∧ handle.fault = Fault.annotate id handle.note ∧
      (.errorOnConflict ∈ draft.flags → draft.params.Compatible draft.causeFields) := by
  rw [perform_eq_ok_iff, build_eq] at h
  obtain ⟨a, ha, h⟩ := Attempt.bind_eq_ok_iff.1 h
  obtain ⟨policy, format, params, hpolicy, hformat, hparams, rfl⟩ := outline_eq_ok ha
  obtain ⟨hnote, hfault⟩ := settle_eq_ok h
  obtain ⟨hstacked, hcompatible⟩ := mergedParams_eq_ok hpolicy hparams
  rw [hfault, hnote]
  exact ⟨hformat, hstacked, rfl, rfl, hcompatible⟩

end Draft

end Mishap
