import Mishap.Proofs.Fault.Drafts

/-!
How a construction ends. Mistakes of the caller come first, in one order, and then failures of the data, in another.
Main statement: every constructor takes both orders; the form that hands failures on and the form that insists differ in
the check of the template, which only the first one makes, and in how they refuse.
-/

namespace Mishap

/-! ### Schemas and flags -/

namespace Schema

/-- Whether a format string cannot address every field by its name. -/
def Malformed (schema : Schema) : Prop :=
  (∃ field ∈ schema.fields, isFieldName field.name = false ∨ isMapSelector field.name = true) ∨
    ¬ (schema.fields.map Field.name).Nodup

theorem nameFault?_eq_none_iff {seen : List String} {fields : List Field} :
    nameFault? seen fields = none ↔
      (∀ field ∈ fields, isFieldName field.name = true ∧ isMapSelector field.name = false ∧ field.name ∉ seen) ∧
        (fields.map Field.name).Nodup := by
  induction fields generalizing seen with
  | nil => simp [nameFault?]
  | cons field rest ih =>
    rw [nameFault?, List.forall_mem_cons, List.map_cons, List.nodup_cons]
    cases hname : isFieldName field.name with
    | false => simp
    | true =>
      cases hselector : isMapSelector field.name with
      | true => simp
      | false =>
        by_cases hseen : field.name ∈ seen
        · simp [hseen]
        · -- the names seen grow by this one, which no later field may repeat
          simp only [Bool.not_true, Bool.false_eq_true, if_false, List.contains_iff_mem, hseen, ih, List.mem_cons,
            not_or, List.mem_map, not_exists, not_and, true_and, not_false_eq_true]
          grind

theorem fault?_eq_none_iff {schema : Schema} : schema.fault? = none ↔ ¬ schema.Malformed := by
  rw [fault?, nameFault?_eq_none_iff, Malformed]
  simp

end Schema

namespace Flag

/-- Whether flags ask an annotation for what it does not know, or for two policies at once. -/
def Misused (flags : List Flag) : Prop :=
  (∃ flag ∈ flags, flag ∉ forMerging) ∨
    ∃ a ∈ flags, ∃ b ∈ flags, a ∈ forMerging ∧ b ∈ forMerging ∧ a ≠ b

/-- The policy of merging that flags which are not misused ask for. -/
def policyOf (flags : List Flag) : Params.MergePolicy :=
  if preferPreviousData ∈ flags then .keepPrevious
  else if errorOnConflict ∈ flags then .errorOnConflict
  else .replace

variable {flags : List Flag}

theorem checkAllowed_eq_ok_iff {allowed : List Flag} :
    checkAllowed allowed flags = .ok () ↔ ∀ flag ∈ flags, flag ∈ allowed := by
  rw [checkAllowed]
  cases hfind : flags.find? fun flag => !allowed.contains flag with
  | none => simpa using hfind
  | some flag =>
    have hflag := List.find?_some hfind
    have hmem := List.mem_of_find?_eq_some hfind
    simp only [reduceCtorEq, false_iff]
    intro hall
    simp [hall flag hmem] at hflag

theorem agreed_of_forall_eq (h : ∀ a ∈ flags, ∀ b ∈ flags, a = b) : ∃ found, agreed flags = .ok found := by
  cases flags with
  | nil => exact ⟨none, rfl⟩
  | cons flag rest =>
    have hnone : rest.find? (· ≠ flag) = none := by
      rw [List.find?_eq_none]
      intro other hother
      simpa using h other (List.mem_cons_of_mem _ hother) flag List.mem_cons_self
    exact ⟨some flag, by rw [agreed, hnone]⟩

theorem mergePolicy_of_not_misused (h : ¬ Misused flags) : mergePolicy flags = .ok (policyOf flags) := by
  have hallowed : ∀ flag ∈ flags, flag ∈ forMerging := fun flag hflag =>
    Classical.not_not.1 fun hnot => h (.inl ⟨flag, hflag, hnot⟩)
  have hsame : ∀ a ∈ flags, ∀ b ∈ flags, a = b := fun a ha b hb =>
    Classical.not_not.1 fun hne => h (.inr ⟨a, ha, b, hb, hallowed a ha, hallowed b hb, hne⟩)
  obtain ⟨found, hfound⟩ := agreed_of_forall_eq hsame
  have hok : ∃ policy, mergePolicy flags = .ok policy := by
    rw [mergePolicy, checkAllowed_eq_ok_iff.2 hallowed, hfound]
    rcases found with _ | _ | _ <;> exact ⟨_, rfl⟩
  obtain ⟨policy, hpolicy⟩ := hok
  obtain ⟨hprefer, hconflict⟩ := mergePolicy_eq_ok hpolicy
  rw [hpolicy, policyOf]
  cases policy <;> simp [hprefer, hconflict]

theorem mergePolicy_of_misused (h : Misused flags) : ∃ fault, mergePolicy flags = .error fault := by
  cases hpolicy : mergePolicy flags with
  | error fault => exact ⟨fault, rfl⟩
  | ok policy =>
    rw [mergePolicy] at hpolicy
    cases hallowed : checkAllowed forMerging flags with
    | error fault =>
      rw [hallowed] at hpolicy
      cases hpolicy
    | ok u =>
      cases hagreed : agreed flags with
      | error fault =>
        rw [hallowed, hagreed] at hpolicy
        cases hpolicy
      | ok found =>
        rcases h with ⟨flag, hflag, hnot⟩ | ⟨a, ha, b, hb, -, -, hne⟩
        · exact absurd (checkAllowed_eq_ok_iff.1 hallowed flag hflag) hnot
        · have hfound := (agreed_eq_ok hagreed a).1 ha
          rw [(agreed_eq_ok hagreed b).1 hb] at hfound
          exact absurd (Option.some.inj hfound).symm hne

/-- One flag, any number of times, is not too many. -/
theorem not_misused_of_forall_eq {flag : Flag} (hflag : flag ∈ forMerging) (h : ∀ other ∈ flags, other = flag) :
    ¬ Misused flags := by
  rintro (⟨other, hother, hnot⟩ | ⟨a, ha, b, hb, -, -, hne⟩)
  · rw [h other hother] at hnot
    exact hnot hflag
  · exact hne ((h a ha).trans (h b hb).symm)

theorem misused_congr {others : List Flag} (h : ∀ flag, flag ∈ others ↔ flag ∈ flags) :
    Misused others ↔ Misused flags := by
  simp only [Misused, h]

theorem policyOf_congr {others : List Flag} (h : ∀ flag, flag ∈ others ↔ flag ∈ flags) :
    policyOf others = policyOf flags := by
  simp only [policyOf, h]

end Flag

/-! ### Mistakes of the caller -/

/-- The mistakes of a caller that are looked for before any data is. -/
inductive Misuse
  | malformedSchema
  | misusedFlags
  | emptyFormat
  deriving DecidableEq, Repr

/-- The misuse that a mistake reports; none for a failure of the data. -/
def Mistake.misuse? : Mistake → Option Misuse
  | schema _ => some .malformedSchema
  | flags _ => some .misusedFlags
  | emptyFormat => some .emptyFormat
  | failed _ => none

theorem Attempt.checkSchema_eq_ok {schema : Schema} (h : ¬ schema.Malformed) {caller : Caller} :
    checkSchema caller schema = .ok () := by
  rw [checkSchema, Schema.fault?_eq_none_iff.2 h]

namespace Draft

/-- Whether a misuse is the first one of a draft. -/
def FirstMisuse (draft : Draft) : Misuse → Prop
  | .malformedSchema => draft.schema.Malformed
  | .misusedFlags => ¬ draft.schema.Malformed ∧ Flag.Misused draft.flags
  | .emptyFormat => ¬ draft.schema.Malformed ∧ ¬ Flag.Misused draft.flags ∧ draft.format = "" ∧ draft.cause = none

theorem no_misuse {draft : Draft} (hwell : ¬ draft.schema.Malformed) (hflags : ¬ Flag.Misused draft.flags)
    (hformat : draft.format = "" → draft.cause ≠ none) : ∀ misuse, ¬ draft.FirstMisuse misuse
  | .malformedSchema, hfirst => hwell hfirst
  | .misusedFlags, hfirst => hflags hfirst.2
  | .emptyFormat, hfirst => hformat hfirst.2.2.1 hfirst.2.2.2

/-- The format string of a draft; an empty one stands for that which renders the cause. -/
def chosenFormat (draft : Draft) : String :=
  if draft.format = "" then (draft.cause.map Fault.defaultFormat).getD "" else draft.format

/-- The note of a draft with the given parameters. -/
def noteWith (draft : Draft) (params : Params) : Note := ⟨.ofFormat draft.chosenFormat, params, draft.cause⟩

/-- The data of a draft merged with that of its cause. -/
def merged (draft : Draft) : Except Params.Conflict Params :=
  draft.params.merge (Flag.policyOf draft.flags) draft.causeFields

variable {draft : Draft}

theorem outline_of_firstMisuse {misuse : Misuse} (h : draft.FirstMisuse misuse) :
    ∃ mistake : Mistake, mistake.misuse? = some misuse ∧
      ∀ caller, draft.outline caller = .error (.usage ⟨caller, mistake⟩) := by
  cases misuse with
  | malformedSchema =>
    cases hfault : draft.schema.fault? with
    | none => exact absurd h (Schema.fault?_eq_none_iff.1 hfault)
    | some fault =>
      refine ⟨.schema fault, rfl, fun caller => ?_⟩
      rw [outline, Attempt.checkSchema, hfault]
      rfl
  | misusedFlags =>
    obtain ⟨fault, hfault⟩ := Flag.mergePolicy_of_misused h.2
    refine ⟨.flags fault, rfl, fun caller => ?_⟩
    rw [outline, Attempt.checkSchema_eq_ok h.1, hfault]
    rfl
  | emptyFormat =>
    obtain ⟨hwell, hflags, hformat, hcause⟩ := h
    refine ⟨.emptyFormat, rfl, fun caller => ?_⟩
    rw [outline, Attempt.checkSchema_eq_ok hwell, Flag.mergePolicy_of_not_misused hflags, resolveFormat, if_pos hformat,
      hcause]
    rfl

theorem outline_of_no_misuse (h : ∀ misuse, ¬ draft.FirstMisuse misuse) (caller : Caller) :
    draft.outline caller = (Attempt.ofData (draft.merged.mapError .mergeConflict)).map draft.noteWith := by
  have hwell : ¬ draft.schema.Malformed := h .malformedSchema
  have hflags : ¬ Flag.Misused draft.flags := fun hflags => h .misusedFlags ⟨hwell, hflags⟩
  have hformat : draft.resolveFormat caller = .ok draft.chosenFormat := by
    rw [resolveFormat, chosenFormat]
    split
    · next hempty =>
      cases hcause : draft.cause with
      | none => exact absurd ⟨hwell, hflags, hempty, hcause⟩ (h .emptyFormat)
      | some cause => rfl
    · rfl
  rw [outline, Attempt.checkSchema_eq_ok hwell, Flag.mergePolicy_of_not_misused hflags, hformat, merged,
    ← mergedParams_eq]
  change (Attempt.ofData (draft.mergedParams (Flag.policyOf draft.flags)) >>=
    fun params => pure (draft.noteWith params)) = _
  cases draft.mergedParams (Flag.policyOf draft.flags) <;> rfl

/-- Whether the flags of a draft change nothing but by the policy that they ask for. -/
theorem outline_congr_flags {flags : List Flag} (hset : ∀ flag, flag ∈ flags ↔ flag ∈ draft.flags)
    (h : ¬ draft.FirstMisuse .misusedFlags) (caller : Caller) :
    ({ draft with flags } : Draft).outline caller = draft.outline caller := by
  by_cases hwell : draft.schema.Malformed
  · cases hfault : draft.schema.fault? with
    | none => exact absurd hwell (Schema.fault?_eq_none_iff.1 hfault)
    | some fault => rw [outline, outline, Attempt.checkSchema, hfault]; rfl
  · have hflags : ¬ Flag.Misused draft.flags := fun hflags => h ⟨hwell, hflags⟩
    have hothers : ¬ Flag.Misused flags := fun hothers => hflags ((Flag.misused_congr hset).1 hothers)
    have hpolicy : Flag.mergePolicy flags = Flag.mergePolicy draft.flags := by
      rw [Flag.mergePolicy_of_not_misused hflags, Flag.mergePolicy_of_not_misused hothers, Flag.policyOf_congr hset]
    rw [outline, outline, hpolicy]
    rfl

/-! ### Checks of a note -/

variable {schema : Schema} {id : Identity} {a : Note} {error : TemplateError} {failure : DataError} {record : Record}

theorem settle_of_template (h : a.template.verifyOwn a.params a.voice? = .error error) :
    settle schema id true a = .error (.data (.template error)) := by
  rw [settle, if_pos rfl, checkOwn, h]
  rfl

/-- Where the template is not looked at, or has no problem, the record decides. -/
theorem settle_of_checked {eager : Bool} (h : eager = true → a.template.verifyOwn a.params a.voice? = .ok ()) :
    settle schema id eager a =
      (Attempt.ofData (schema.read .isError a.params)).map fun record => ⟨Fault.annotate id a, a, record⟩ := by
  have hchecked : (if eager then checkOwn a else .ok ()) = .ok () := by
    cases eager with
    | false => rfl
    | true => rw [if_pos rfl, checkOwn, h rfl]
  rw [settle, hchecked]
  cases schema.read .isError a.params <;> rfl

theorem settle_ne_usage {eager : Bool} {e : UsageError} : settle schema id eager a ≠ .error (.usage e) := by
  have hread (eager : Bool) (h : eager = true → a.template.verifyOwn a.params a.voice? = .ok ()) :
      settle schema id eager a ≠ .error (.usage e) := by
    rw [settle_of_checked h]
    cases schema.read .isError a.params <;> simp [Attempt.ofData, Except.map]
  cases eager with
  | false => exact hread false fun h => absurd h Bool.false_ne_true
  | true =>
    cases hverify : a.template.verifyOwn a.params a.voice? with
    | ok u => exact hread true fun _ => hverify
    | error error => simp [settle_of_template hverify]

/-- A note that an eager build accepts is accepted without the check of its template. -/
theorem settle_lazy {handle : Handle} (h : settle schema id true a = .ok handle) :
    settle schema id false a = .ok handle := by
  cases hverify : a.template.verifyOwn a.params a.voice? with
  | ok u =>
    have hlazy : settle schema id false a = _ := settle_of_checked nofun
    rw [hlazy, ← h, settle_of_checked fun _ => hverify]
  | error error =>
    rw [settle_of_template hverify] at h
    cases h

end Draft

/-! ### Constructors -/

/-- What a constructor is given: data, of a record or of a map, and possibly a cause with the flags for its data. -/
inductive Construction
  | ofRecord (format : String) (schema : Schema) (record : Record)
  | ofParams (format : String) (params : Params)
  | wrap (cause : Fault) (format : String) (schema : Schema) (record : Record) (flags : List Flag)
  | wrapParams (cause : Fault) (format : String) (params : Params) (flags : List Flag)

namespace Construction

/-- The form that insists on a fault. -/
def insisting (id : Identity) : Construction → Attempt Handle
  | ofRecord format schema record => Fault.ofRecord id format schema record
  | ofParams format params => Fault.ofParams id format params
  | wrap cause format schema record flags => cause.wrap id format schema record flags
  | wrapParams cause format params flags => cause.wrapParams id format params flags

/-- The form that hands failures of the data on. -/
def trying (id : Identity) : Construction → Attempt Handle
  | ofRecord format schema record => Fault.tryOfRecord id format schema record
  | ofParams format params => Fault.tryOfParams id format params
  | wrap cause format schema record flags => cause.tryWrap id format schema record flags
  | wrapParams cause format params flags => cause.tryWrapParams id format params flags

def draft : Construction → Draft
  | ofRecord format schema record => ⟨none, format, schema.toParams record, [], schema⟩
  | ofParams format params => ⟨none, format, params, [], .empty⟩
  | wrap cause format schema record flags => ⟨some cause, format, schema.toParams record, flags, schema⟩
  | wrapParams cause format params flags => ⟨some cause, format, params, flags, .empty⟩

/-- The form that insists, as a usage error names it. -/
def insister : Construction → Caller
  | ofRecord .. => .new
  | ofParams .. => .withParams
  | wrap .. => .wrap
  | wrapParams .. => .wrapWithParams

/-- The form that hands failures on, as a usage error names it. -/
def trier : Construction → Caller
  | ofRecord .. => .tryNew
  | ofParams .. => .tryWithParams
  | wrap .. => .tryWrap
  | wrapParams .. => .tryWrapWithParams

/-- The same call with other flags, if it takes any. -/
def withFlags (flags : List Flag) : Construction → Construction
  | wrap cause format schema record _ => .wrap cause format schema record flags
  | wrapParams cause format params _ => .wrapParams cause format params flags
  | c => c

variable (c : Construction) (id : Identity)

theorem trying_eq : c.trying id = c.draft.outline c.trier >>= Draft.settle c.draft.schema id true := by
  rw [← Draft.build_eq]
  cases c <;> rfl

theorem insisting_eq :
    c.insisting id = (c.draft.outline c.insister >>= Draft.settle c.draft.schema id false).insist c.insister := by
  rw [← Draft.build_eq]
  cases c <;> rfl

variable {c id}

theorem refused_of_firstMisuse {misuse : Misuse} (h : c.draft.FirstMisuse misuse) :
    ∃ mistake : Mistake, mistake.misuse? = some misuse ∧ c.trying id = .error (.usage ⟨c.trier, mistake⟩) ∧
      c.insisting id = .error (.usage ⟨c.insister, mistake⟩) := by
  obtain ⟨mistake, hmistake, houtline⟩ := Draft.outline_of_firstMisuse h
  refine ⟨mistake, hmistake, ?_, ?_⟩
  · rw [trying_eq, houtline]
    rfl
  · rw [insisting_eq, houtline]
    rfl

theorem of_conflict (h : ∀ misuse, ¬ c.draft.FirstMisuse misuse) {conflict : Params.Conflict}
    (hmerged : c.draft.merged = .error conflict) :
    c.trying id = .error (.data (.mergeConflict conflict)) ∧
      c.insisting id = .error (.usage ⟨c.insister, .failed (.mergeConflict conflict)⟩) := by
  rw [trying_eq, insisting_eq, Draft.outline_of_no_misuse h, Draft.outline_of_no_misuse h, hmerged]
  exact ⟨rfl, rfl⟩

theorem of_merged (h : ∀ misuse, ¬ c.draft.FirstMisuse misuse) {params : Params}
    (hmerged : c.draft.merged = .ok params) :
    c.trying id = Draft.settle c.draft.schema id true (c.draft.noteWith params) ∧
      c.insisting id = (Draft.settle c.draft.schema id false (c.draft.noteWith params)).insist c.insister := by
  rw [trying_eq, insisting_eq, Draft.outline_of_no_misuse h, Draft.outline_of_no_misuse h, hmerged]
  exact ⟨rfl, rfl⟩

/-- A usage error that reports a misuse reports the first one. -/
theorem firstMisuse_of_refused {mistake : Mistake} {misuse : Misuse} (hmistake : mistake.misuse? = some misuse)
    (h : c.trying id = .error (.usage ⟨c.trier, mistake⟩) ∨ c.insisting id = .error (.usage ⟨c.insister, mistake⟩)) :
    c.draft.FirstMisuse misuse := by
  by_cases hfirst : ∃ first, c.draft.FirstMisuse first
  · obtain ⟨first, hfirst⟩ := hfirst
    obtain ⟨found, hfound, htrying, hinsisting⟩ := refused_of_firstMisuse hfirst
    rw [htrying, hinsisting] at h
    have hsame : found = mistake := by rcases h with h | h <;> cases h <;> rfl
    rw [hsame, hmistake] at hfound
    cases hfound
    exact hfirst
  have hmisuse : ∀ first, ¬ c.draft.FirstMisuse first := not_exists.1 hfirst
  cases hmerged : c.draft.merged with
  | error conflict =>
    obtain ⟨htrying, hinsisting⟩ := of_conflict hmisuse hmerged
    rw [htrying, hinsisting] at h
    rcases h with h | h <;> cases h
    cases hmistake
  | ok params =>
    obtain ⟨htrying, hinsisting⟩ := of_merged hmisuse hmerged
    rw [htrying, hinsisting] at h
    rcases h with h | h
    · exact absurd h Draft.settle_ne_usage
    · rw [Attempt.insist.eq_def] at h
      split at h
      · cases h
        cases hmistake
      · exact absurd h Draft.settle_ne_usage

theorem draft_withFlags {flags : List Flag} (hset : ∀ flag, flag ∈ flags ↔ flag ∈ c.draft.flags) :
    (c.withFlags flags).draft = { c.draft with flags } := by
  have hnil (h : c.draft.flags = []) : flags = [] :=
    List.eq_nil_iff_forall_not_mem.2 fun flag hflag => by
      rw [hset, h] at hflag
      cases hflag
  cases c with
  | ofRecord format schema record => rw [hnil rfl]; rfl
  | ofParams format params => rw [hnil rfl]; rfl
  | wrap => rfl
  | wrapParams => rfl

/-! ### The two forms of a constructor -/

section Merged

variable {params : Params} {failure : DataError} {record : Record}

theorem trying_of_template (h : ∀ misuse, ¬ c.draft.FirstMisuse misuse) (hmerged : c.draft.merged = .ok params)
    {error : TemplateError} (hverify : (c.draft.noteWith params).template.verifyOwn params
      (c.draft.noteWith params).voice? = .error error) :
    c.trying id = .error (.data (.template error)) :=
  (of_merged h hmerged).1.trans (Draft.settle_of_template hverify)

theorem trying_of_read (h : ∀ misuse, ¬ c.draft.FirstMisuse misuse) (hmerged : c.draft.merged = .ok params)
    (hverify : (c.draft.noteWith params).template.verifyOwn params (c.draft.noteWith params).voice? = .ok ()) :
    c.trying id = (Attempt.ofData (c.draft.schema.read .isError params)).map
      fun record => ⟨Fault.annotate id (c.draft.noteWith params), c.draft.noteWith params, record⟩ :=
  (of_merged h hmerged).1.trans (Draft.settle_of_checked fun _ => hverify)

theorem insisting_of_read (h : ∀ misuse, ¬ c.draft.FirstMisuse misuse) (hmerged : c.draft.merged = .ok params) :
    c.insisting id = Attempt.insist c.insister ((Attempt.ofData (c.draft.schema.read .isError params)).map
      fun record => ⟨Fault.annotate id (c.draft.noteWith params), c.draft.noteWith params, record⟩) :=
  (of_merged h hmerged).2.trans (congrArg (Attempt.insist c.insister) (Draft.settle_of_checked nofun))

end Merged

theorem insisting_of_trying {handle : Handle} (h : c.trying id = .ok handle) : c.insisting id = .ok handle := by
  have hmisuse : ∀ misuse, ¬ c.draft.FirstMisuse misuse := by
    intro misuse hfirst
    obtain ⟨mistake, -, htrying, -⟩ := refused_of_firstMisuse hfirst
    rw [htrying] at h
    cases h
  cases hmerged : c.draft.merged with
  | error conflict =>
    rw [(of_conflict hmisuse hmerged).1] at h
    cases h
  | ok params =>
    rw [(of_merged hmisuse hmerged).1] at h
    rw [(of_merged hmisuse hmerged).2, Draft.settle_lazy h]
    rfl

/-- The constructors make their checks in one order and agree on them. Mistakes of the caller come first: the names of
the schema, the flags, the format; both forms report the first of these. Then comes the data: the merge, the template,
which only the form that hands failures on looks at, and the record; a failure of the data is handed on by that form and
is a usage error of the other. Of the flags nothing counts but which ones there are. -/
theorem forms_agree (c : Construction) (id : Identity) :
    (∀ misuse, c.draft.FirstMisuse misuse → ∃ mistake : Mistake, mistake.misuse? = some misuse ∧
      c.trying id = .error (.usage ⟨c.trier, mistake⟩) ∧ c.insisting id = .error (.usage ⟨c.insister, mistake⟩)) ∧
    (∀ misuse mistake, mistake.misuse? = some misuse →
      (c.trying id = .error (.usage ⟨c.trier, mistake⟩) ∨ c.insisting id = .error (.usage ⟨c.insister, mistake⟩)) →
      c.draft.FirstMisuse misuse) ∧
    ((∀ misuse, ¬ c.draft.FirstMisuse misuse) →
      (∀ conflict, c.draft.merged = .error conflict →
        c.trying id = .error (.data (.mergeConflict conflict)) ∧
        c.insisting id = .error (.usage ⟨c.insister, .failed (.mergeConflict conflict)⟩)) ∧
      ∀ params, c.draft.merged = .ok params → ∀ a, a = c.draft.noteWith params →
        (∀ error, a.template.verifyOwn params a.voice? = .error error →
          c.trying id = .error (.data (.template error))) ∧
        (∀ failure, c.draft.schema.read .isError params = .error failure →
          (a.template.verifyOwn params a.voice? = .ok () → c.trying id = .error (.data failure)) ∧
          c.insisting id = .error (.usage ⟨c.insister, .failed failure⟩)) ∧
        ∀ record, c.draft.schema.read .isError params = .ok record →
          (a.template.verifyOwn params a.voice? = .ok () → c.trying id = .ok ⟨Fault.annotate id a, a, record⟩) ∧
          c.insisting id = .ok ⟨Fault.annotate id a, a, record⟩) ∧
    (∀ handle, c.trying id = .ok handle → c.insisting id = .ok handle) ∧
    ∀ flags, (∀ flag, flag ∈ flags ↔ flag ∈ c.draft.flags) →
      Flag.policyOf flags = Flag.policyOf c.draft.flags ∧
      (∀ misuse, (c.withFlags flags).draft.FirstMisuse misuse ↔ c.draft.FirstMisuse misuse) ∧
      (¬ c.draft.FirstMisuse .misusedFlags →
        (c.withFlags flags).trying id = c.trying id ∧ (c.withFlags flags).insisting id = c.insisting id) := by
  refine ⟨fun misuse => refused_of_firstMisuse, fun misuse mistake => firstMisuse_of_refused, fun hmisuse => ⟨?_, ?_⟩,
    fun handle => insisting_of_trying, fun flags hset => ?_⟩
  · exact fun conflict => of_conflict hmisuse
  · rintro params hmerged a rfl
    refine ⟨fun error => trying_of_template hmisuse hmerged, fun failure hread => ⟨fun hverify => ?_, ?_⟩,
      fun record hread => ⟨fun hverify => ?_, ?_⟩⟩
    · rw [trying_of_read hmisuse hmerged hverify, hread]
      rfl
    · rw [insisting_of_read hmisuse hmerged, hread]
      rfl
    · rw [trying_of_read hmisuse hmerged hverify, hread]
      rfl
    · rw [insisting_of_read hmisuse hmerged, hread]
      rfl
  · refine ⟨Flag.policyOf_congr hset, fun misuse => ?_, fun hflags => ?_⟩
    · rw [draft_withFlags hset]
      cases misuse <;> simp only [Draft.FirstMisuse, Flag.misused_congr hset]
    · have htrier : (c.withFlags flags).trier = c.trier := by cases c <;> rfl
      have hinsister : (c.withFlags flags).insister = c.insister := by cases c <;> rfl
      rw [trying_eq, trying_eq, insisting_eq, insisting_eq, draft_withFlags hset, htrier, hinsister,
        Draft.outline_congr_flags hset hflags, Draft.outline_congr_flags hset hflags]
      exact ⟨rfl, rfl⟩

/-- A format string that asks for what no map holds: one form says so at once, the other one in the message. -/
theorem forms_agree_but_template :
    (∃ error, (Construction.ofParams "\x7bx\x7d" .empty).trying 0 = .error (.data (.template error))) ∧
      ∃ handle, (Construction.ofParams "\x7bx\x7d" .empty).insisting 0 = .ok handle ∧ handle.note.params = .empty := by
  let c : Construction := .ofParams "\x7bx\x7d" .empty
  have hwell : ¬ c.draft.schema.Malformed := Schema.fault?_eq_none_iff.1 rfl
  have hflags : ¬ Flag.Misused c.draft.flags := by simp [c, Flag.Misused, draft]
  have hformat : c.draft.format ≠ "" := by decide
  have hmisuse := Draft.no_misuse hwell hflags fun hempty => absurd hempty hformat
  obtain ⟨-, -, hchecks, -⟩ := forms_agree c 0
  obtain ⟨htemplate, -, hread⟩ := (hchecks hmisuse).2 .empty rfl _ rfl
  have hverify : ∃ error, (Template.ofFormat "\x7bx\x7d").verifyOwn .empty none = .error error := ⟨_, rfl⟩
  obtain ⟨error, hverify⟩ := hverify
  exact ⟨⟨error, htemplate error hverify⟩, _, (hread [] rfl).2, rfl⟩

end Construction

end Mishap
