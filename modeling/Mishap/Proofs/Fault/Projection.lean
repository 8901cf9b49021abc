import Mishap.Proofs.Fault.Chain
import Mishap.Proofs.Fault.Construction
import Mishap.Proofs.Record.Contents

/-!
Records that are attached to a fault and read from it. Main statement: a record survives being attached, whatever data
is underneath it: nothing but a template can be wrong with the fault, and the record is read back from it.
-/

namespace Mishap

namespace Flag

theorem not_misused_of_replacing {flags : List Flag} (h : ∀ flag ∈ flags, flag = replacePreviousData) :
    ¬ Misused flags := not_misused_of_forall_eq (by decide) h

theorem policyOf_of_replacing {flags : List Flag} (h : ∀ flag ∈ flags, flag = replacePreviousData) :
    policyOf flags = .replace := by
  rw [policyOf, if_neg fun hmem => ?_, if_neg fun hmem => ?_]
  · cases h _ hmem
  · cases h _ hmem

end Flag

namespace Schema

/-- A record of a schema that is held by the parameters is what is read from them. -/
theorem read_of_held {schema : Schema} (contents : Contents schema.fields) {params : Params}
    (h : ∀ name v, (name, v) ∈ Contents.record schema.fields contents → params.get? name = some v)
    (missing : MissingData) : schema.read missing params = .ok (Contents.record schema.fields contents) := by
  rw [read_eq, Contents.take_of_held contents h, ← Contents.record_readBack contents]
  rfl

theorem nodup_of_not_malformed {schema : Schema} (h : ¬ schema.Malformed) : (schema.fields.map Field.name).Nodup :=
  Classical.not_not.1 fun hnot => h (.inr hnot)

theorem get?_toParams_contents {schema : Schema} (homitted : schema.omitted = []) (hwell : ¬ schema.Malformed)
    (contents : Contents schema.fields) (name : String) (v : Value)
    (h : (name, v) ∈ Contents.record schema.fields contents) :
    (schema.toParams (Contents.record schema.fields contents)).get? name = some v := by
  refine (get?_toParams_eq_some_iff homitted ?_).2 h
  rw [Contents.map_fst_record]
  exact nodup_of_not_malformed hwell

end Schema

namespace Fault

theorem project_eq_ok_iff {f : Fault} {schema : Schema} {flags : List Flag} {record : Record} :
    f.project schema flags = .ok record ↔
      ¬ schema.Malformed ∧ ∃ options, Flag.projectOptions flags = .ok options ∧
        schema.read options.missing f.fields = .ok record := by
  simp only [project, Attempt.bind_eq_ok_iff, Attempt.ofFlags_eq_ok_iff]
  have hschema : (∃ u, Attempt.checkSchema .project schema = .ok u) ↔ ¬ schema.Malformed := by
    rw [← Schema.fault?_eq_none_iff, Attempt.checkSchema]
    cases schema.fault? <;> simp
  have hstrict (x : Except DataError Record) (strict : Bool) :
      (if strict then (Attempt.ofData x).insist .project else Attempt.ofData x) = .ok record ↔ x = .ok record := by
    cases strict with
    | false => exact Attempt.ofData_eq_ok_iff
    | true => exact Attempt.insist_eq_ok_iff.trans Attempt.ofData_eq_ok_iff
  simp only [hstrict, exists_and_right, hschema]
  constructor
  · rintro ⟨options, hoptions, hwell, hread⟩
    exact ⟨hwell, options, hoptions, hread⟩
  · rintro ⟨hwell, options, hoptions, hread⟩
    exact ⟨options, hoptions, hwell, hread⟩

end Fault

/-! ### Records that are attached -/

namespace Contents

variable {fields : List Field} {contents : Contents fields} {x : Attempt Handle}

/-- Whether an attempt gave a fault with the record and the values it is written as, or found a problem in its template
only. -/
def CarriedBy (contents : Contents fields) (x : Attempt Handle) : Prop :=
  (∃ error, x = .error (.data (.template error))) ∨
    ∃ id a, x = .ok ⟨Fault.annotate id a, a, record fields contents⟩ ∧
      ∀ name v, (name, v) ∈ record fields contents → a.params.get? name = some v

theorem CarriedBy.template {refusal : Refusal} (h : CarriedBy contents x) (hrefused : x = .error refusal) :
    ∃ error, refusal = .data (.template error) := by
  rcases h with ⟨error, herror⟩ | ⟨id, a, hbuilt, -⟩
  · exact ⟨error, Except.error.inj (hrefused.symm.trans herror)⟩
  · cases hrefused.symm.trans hbuilt

/-- The record of a fault, and all that is taken from it again. -/
theorem CarriedBy.handle {handle : Handle} (h : CarriedBy contents x) (hbuilt : x = .ok handle) :
    handle.record = record fields contents ∧
      ∀ name v, (name, v) ∈ record fields contents → handle.fault.fields.get? name = some v := by
  rcases h with ⟨error, herror⟩ | ⟨id, a, hok, hheld⟩
  · cases hbuilt.symm.trans herror
  · cases hbuilt.symm.trans hok
    rw [Fault.fields_annotate]
    exact ⟨rfl, hheld⟩

end Contents

namespace Construction

variable {c : Construction}

/-- Data over that of the cause is never in conflict with it. -/
theorem merged_of_replacing (h : ∀ flag ∈ c.draft.flags, flag = .replacePreviousData) :
    c.draft.merged = .ok (c.draft.params.atop c.draft.causeFields) := by
  rw [Draft.merged, Flag.policyOf_of_replacing h, Params.merge_replace]

theorem carriedBy_of_merged (hmisuse : ∀ misuse, ¬ c.draft.FirstMisuse misuse) {params : Params}
    (hmerged : c.draft.merged = .ok params) (contents : Contents c.draft.schema.fields)
    (hheld : ∀ name v, (name, v) ∈ Contents.record _ contents → params.get? name = some v) (id : Identity) :
    Contents.CarriedBy contents (c.trying id) := by
  let a := c.draft.noteWith params
  cases hverify : a.template.verifyOwn params a.voice? with
  | error error => exact .inl ⟨error, trying_of_template hmisuse hmerged hverify⟩
  | ok u =>
    refine .inr ⟨id, a, ?_, hheld⟩
    rw [trying_of_read hmisuse hmerged hverify, Schema.read_of_held contents hheld]
    rfl

/-- A record over the data of a cause. -/
theorem carriedBy_of_replacing (homitted : c.draft.schema.omitted = []) (hwell : ¬ c.draft.schema.Malformed)
    (hflags : ∀ flag ∈ c.draft.flags, flag = .replacePreviousData)
    (hformat : c.draft.format = "" → c.draft.cause ≠ none) (contents : Contents c.draft.schema.fields)
    (hparams : c.draft.params = c.draft.schema.toParams (Contents.record _ contents)) (id : Identity) :
    Contents.CarriedBy contents (c.trying id) := by
  have hmisuse := Draft.no_misuse hwell (Flag.not_misused_of_replacing hflags) hformat
  refine carriedBy_of_merged hmisuse (merged_of_replacing hflags) contents (fun name v hmem => ?_) id
  rw [Params.get?_atop, hparams, Schema.get?_toParams_contents homitted hwell contents name v hmem, Option.some_or]

end Construction

namespace Contents

/-- Records survive being attached to a fault. Reading a record is taking its contents and writing these again, and they
are taken back from the parameters of the record, whatever is done about missing data. A fault that carries a record,
over the data of a cause or of no other, can be refused for nothing but its template, or a format string that is missing;
and the record is read from the fault again. -/
theorem survives_attaching (schema : Schema) (homitted : schema.omitted = []) (hwell : ¬ schema.Malformed)
    (contents : Contents schema.fields) :
    (∀ missing params, schema.read missing params = (take missing params schema.fields).map (record schema.fields)) ∧
    (∀ missing, take missing (schema.toParams (record schema.fields contents)) schema.fields =
      .ok (readBack schema.fields contents)) ∧
    ((∀ field ∈ schema.fields, field.type.isPlain) → readBack schema.fields contents = contents) ∧
    (∀ id format refusal, Fault.tryOfRecord id format schema (record schema.fields contents) = .error refusal →
      (∃ error, refusal = .data (.template error)) ∨ format = "" ∧ refusal = .usage ⟨.tryNew, .emptyFormat⟩) ∧
    (∀ (cause : Fault) id format flags, (∀ flag ∈ flags, flag = .replacePreviousData) → ∀ refusal,
      cause.tryWrap id format schema (record schema.fields contents) flags = .error refusal →
        ∃ error, refusal = .data (.template error)) ∧
    ∀ handle, ((∃ id format, Fault.tryOfRecord id format schema (record schema.fields contents) = .ok handle) ∨
        ∃ (cause : Fault) (id : Identity) (format : String) (flags : List Flag),
          (∀ flag ∈ flags, flag = .replacePreviousData) ∧
          cause.tryWrap id format schema (record schema.fields contents) flags = .ok handle) →
      handle.record = record schema.fields contents ∧
      (∀ missing, take missing handle.fault.fields schema.fields = .ok (readBack schema.fields contents)) ∧
      ∀ flags options, Flag.projectOptions flags = .ok options →
        handle.fault.project schema flags = .ok (record schema.fields contents) := by
  have hnew (id : Identity) (format : String) (hformat : format ≠ "") :
      CarriedBy contents (Fault.tryOfRecord id format schema (record schema.fields contents)) :=
    Construction.carriedBy_of_replacing (c := .ofRecord format schema (record schema.fields contents))
      homitted hwell nofun (fun hempty => absurd hempty hformat) contents rfl id
  have hwrap (cause : Fault) (id : Identity) (format : String) (flags : List Flag)
      (hflags : ∀ flag ∈ flags, flag = .replacePreviousData) :
      CarriedBy contents (cause.tryWrap id format schema (record schema.fields contents) flags) :=
    Construction.carriedBy_of_replacing (c := .wrap cause format schema (record schema.fields contents) flags)
      homitted hwell hflags nofun contents rfl id
  have hempty (id : Identity) : Fault.tryOfRecord id "" schema (record schema.fields contents) =
      .error (.usage ⟨.tryNew, .emptyFormat⟩) := by
    let c : Construction := .ofRecord "" schema (record schema.fields contents)
    have hfirst : c.draft.FirstMisuse .emptyFormat := ⟨hwell, Flag.not_misused_of_replacing nofun, rfl, rfl⟩
    obtain ⟨mistake, hmistake, hrefused, -⟩ := Construction.refused_of_firstMisuse hfirst
    cases mistake <;> cases hmistake
    exact hrefused
  refine ⟨schema.read_eq, fun missing => take_of_held contents (Schema.get?_toParams_contents homitted hwell contents),
    fun hplain => readBack_of_isPlain hplain contents, ?_, ?_, ?_⟩
  · intro id format refusal hrefused
    by_cases hformat : format = ""
    · rw [hformat, hempty] at hrefused
      exact .inr ⟨hformat, (Except.error.inj hrefused).symm⟩
    · exact .inl ((hnew id format hformat).template hrefused)
  · exact fun cause id format flags hflags refusal => (hwrap cause id format flags hflags).template
  · intro handle hbuilt
    obtain ⟨hrecord, hheld⟩ : handle.record = record schema.fields contents ∧
        ∀ name v, (name, v) ∈ record schema.fields contents → handle.fault.fields.get? name = some v := by
      rcases hbuilt with ⟨id, format, hbuilt⟩ | ⟨cause, id, format, flags, hflags, hbuilt⟩
      · by_cases hformat : format = ""
        · rw [hformat, hempty] at hbuilt
          cases hbuilt
        · exact (hnew id format hformat).handle hbuilt
      · exact (hwrap cause id format flags hflags).handle hbuilt
    refine ⟨hrecord, fun missing => take_of_held contents hheld, fun flags options hflags => ?_⟩
    exact Fault.project_eq_ok_iff.2 ⟨hwell, options, hflags, Schema.read_of_held contents hheld options.missing⟩

/-- A fault that holds a number as a text. -/
def numberAsText : Fault := Fault.annotate 0 ⟨Template.ofFormat "late", .singleton "n" (.text "seven"), none⟩

/-- What is there and not there is not there, and what a cause holds under the name of a field is no matter. -/
theorem survives_attaching_nil :
    ∃ (schema : Schema) (contents : Contents schema.fields) (handle : Handle),
      numberAsText.fields.get? "n" = some (.text "seven") ∧
      numberAsText.tryWrap 1 "" schema (record schema.fields contents) [] = .ok handle ∧
      take .isError handle.fault.fields schema.fields = .ok (readBack schema.fields contents) ∧
      readBack schema.fields contents ≠ contents ∧
      handle.fault.project schema [.missingDataAsZero] = .ok [("n", .nil), ("x", .float (.zero false))] := by
  let schema : Schema := ⟨[⟨"n", .optional (.optional .bool)⟩, ⟨"x", .single⟩], []⟩
  let contents : Contents schema.fields := (some (none : Option Bool), Binary32.zero, ())
  have hwell : ¬ schema.Malformed := Schema.fault?_eq_none_iff.1 rfl
  have hok : (numberAsText.tryWrap 1 "" schema (record schema.fields contents) []).isOk := rfl
  obtain ⟨-, -, -, -, -, hhandle⟩ := survives_attaching schema rfl hwell contents
  cases hbuilt : numberAsText.tryWrap 1 "" schema (record schema.fields contents) [] with
  | error refusal =>
    rw [hbuilt] at hok
    cases hok
  | ok handle =>
    obtain ⟨-, htake, hproject⟩ := hhandle handle (.inr ⟨numberAsText, 1, "", [], nofun, hbuilt⟩)
    refine ⟨schema, contents, handle, rfl, hbuilt, htake .isError, ?_, hproject _ _ rfl⟩
    intro hsame
    cases congrArg Prod.fst hsame

end Contents

end Mishap
