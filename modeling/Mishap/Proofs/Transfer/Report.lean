import Mishap.Proofs.Fault.Projection
import Mishap.Proofs.Template.Rendering
import Mishap.Proofs.Transfer.Progress
import Mishap.Proofs.Verb.Padding

/-!
What the fault of a broken transfer tells. Main statement: a transfer that breaks off is reported by a fault, which is
always built: its record, its fields and what is projected from it give the bytes that were transferred and those that
were expected, its message tells the same, and its cause is what stood in the way.
-/

namespace Mishap

namespace Fault

/-- A record around a fault, where no flags are given, is always attached. -/
theorem wrap_contents (cause : Fault) (id : Identity) {format : String} (hformat : format ≠ "") {schema : Schema}
    (homitted : schema.omitted = []) (hwell : ¬ schema.Malformed) (contents : Contents schema.fields) :
    let record := Contents.record schema.fields contents
    let a : Note := ⟨.ofFormat format, (schema.toParams record).atop cause.fields, some cause⟩
    cause.wrap id format schema record [] = .ok ⟨annotate id a, a, record⟩ := by
  intro record a
  let c : Construction := .wrap cause format schema record []
  have hflags : ∀ flag ∈ c.draft.flags, flag = .replacePreviousData := by simp [c, Construction.draft]
  have hmisuse : ∀ misuse, ¬ c.draft.FirstMisuse misuse :=
    Draft.no_misuse hwell (Flag.not_misused_of_replacing hflags) fun hempty => absurd hempty hformat
  have hnote : c.draft.noteWith a.params = a := by
    rw [Draft.noteWith, Draft.chosenFormat, if_neg (show c.draft.format ≠ "" from hformat)]
    rfl
  have hheld : ∀ name v, (name, v) ∈ record → a.params.get? name = some v := by
    intro name v hmem
    rw [Params.get?_atop, Schema.get?_toParams_contents homitted hwell contents name v hmem, Option.some_or]
  have hbuilt : c.insisting id = _ := Construction.insisting_of_read hmisuse (Construction.merged_of_replacing hflags)
  rw [show c.draft.params.atop c.draft.causeFields = a.params from rfl, hnote,
    show c.draft.schema = schema from rfl, Schema.read_of_held contents hheld] at hbuilt
  exact hbuilt

end Fault

/-! ### Messages -/

theorem formatValue_decimal (n : UInt64) : formatValue (.uint n) "d" = .ok (toString n.toNat) := by
  let verb : Verb := ⟨.none, none, none, .decimal⟩
  have hverb : Verb.ofText? "d" = some verb := rfl
  have hfill : verb.fill (verb.integerLayout .decimal 10 false n.toNat) = Nat.toDigits 10 n.toNat := by
    refine (Verb.fill_withoutWidth verb _).trans ?_
    simp [verb, Verb.integerLayout, Verb.sign, Verb.digitsIn, VerbFlags.none]
  rw [formatValue, hverb, Option.bind_some, Nat.toString_eq_ofList_toDigits, ← hfill]
  rfl

theorem Setting.fieldText_decimal {setting : Setting} {ref : FieldRef} {n : UInt64}
    (hname : isMapSelector ref.name = false) (hverb : ref.verb = some "d")
    (h : (setting.params ref.scope).get? ref.name = some (.uint n)) :
    setting.fieldText ref = .ok (toString n.toNat) := by
  have htext : ref.verbText = "d" := by
    rw [FieldRef.verbText, hverb]
    rfl
  rw [fieldText]
  simp only [hname, Bool.false_eq_true, if_false, h, htext, formatValue_decimal]

/-- What a message of a broken transfer begins with. -/
def Direction.participle : Direction → String
  | reading => "read"
  | writing => "wrote"

/-- How the format string of a broken transfer is read. -/
theorem Direction.root_format (direction : Direction) :
    ∃ done expected cause, (Template.ofFormat direction.format).root =
      .list [.literal (direction.participle ++ " "), .field ⟨.own, some "d", "bytes_done", done⟩, .literal " of ",
        .field ⟨.own, some "d", "expected", expected⟩, .literal " bytes: ", .wrap .own cause] := by
  cases direction <;> exact ⟨_, _, _, rfl⟩

theorem Direction.render_format (direction : Direction) (passed : Params) {own : Params} {done expected : UInt64}
    (hdone : own.get? "bytes_done" = some (.uint done)) (hexpected : own.get? "expected" = some (.uint expected))
    (cause : String) :
    (Template.ofFormat direction.format).render own passed (some (.plain cause)) =
      .ok (direction.participle ++ " " ++ toString done.toNat ++ " of " ++ toString expected.toNat ++ " bytes: " ++ cause) := by
  obtain ⟨doneSpan, expectedSpan, causeSpan, hroot⟩ := direction.root_format
  let setting : Setting := ⟨own, passed, some (.plain cause)⟩
  have hdoneText : setting.fieldText ⟨.own, some "d", "bytes_done", doneSpan⟩ = .ok (toString done.toNat) :=
    Setting.fieldText_decimal rfl rfl hdone
  have hexpectedText : setting.fieldText ⟨.own, some "d", "expected", expectedSpan⟩ = .ok (toString expected.toNat) :=
    Setting.fieldText_decimal rfl rfl hexpected
  have hcause : setting.causeText .own = .ok cause := rfl
  have hnil : Node.renderItems setting [] = .ok "" := rfl
  rw [Template.render, hroot, Node.render]
  simp only [Node.renderItems_cons, hnil, Node.render, hdoneText, hexpectedText, hcause, Verb.Formatted.join_ok,
    String.append_assoc, String.append_empty, setting]

/-! ### Faults -/

namespace TransferFailure

/-- What is told of a broken transfer by a fault of that identity, around a cause of its own one. -/
structure Tells (failure : TransferFailure) (causeId : Identity) (handle : Handle) : Prop where
  record : handle.record = [("bytes_done", .uint (.ofNat failure.done)), ("partial", .bool (0 < failure.done)),
    ("expected", .uint (.ofNat failure.expected))]
  field : ∀ name v, handle.fault.field? name = some v ↔ (name, v) ∈ handle.record
  project : ∀ flags options, Flag.projectOptions flags = .ok options →
    handle.fault.project schema flags = .ok handle.record
  cause : handle.fault.cause? = some (.io causeId failure.cause)
  message : handle.fault.message = .ok (failure.direction.participle ++ " " ++ toString failure.done ++ " of " ++
    toString failure.expected ++ " bytes: " ++ failure.cause.message)

theorem schema_wellFormed : ¬ schema.Malformed := Schema.fault?_eq_none_iff.1 rfl

theorem fitsUnsigned_bits64 (n : UInt64) : FieldType.fitsUnsigned .bits64 n := decide_eq_true n.toNat_lt

/-- What the record of a broken transfer holds. -/
def contents (failure : TransferFailure) : Contents schema.fields :=
  (⟨.ofNat failure.done, fitsUnsigned_bits64 _⟩, failure.isPartial, ⟨.ofNat failure.expected, fitsUnsigned_bits64 _⟩, ())

theorem record_contents (failure : TransferFailure) :
    Contents.record schema.fields failure.contents = failure.record := rfl

variable {failure : TransferFailure}

/-- Whether a fault is built for a broken transfer, whatever the identities, that tells all of it. -/
def IsReported (failure : TransferFailure) : Prop :=
  ∀ causeId id, ∃ handle, failure.toFault causeId id = .ok handle ∧ failure.Tells causeId handle

/-- A transfer that broke off before its end is reported. -/
theorem isReported (hless : failure.done < failure.expected) (hexpected : failure.expected < UInt64.size) :
    failure.IsReported := by
  intro causeId id
  let params := schema.toParams failure.record
  let cause : Fault := .io causeId failure.cause
  let a : Note := ⟨.ofFormat failure.direction.format, params, some cause⟩
  have hnodup : (failure.record.map Prod.fst).Nodup := by
    rw [← record_contents, Contents.map_fst_record]
    exact Schema.nodup_of_not_malformed schema_wellFormed
  have hget (name : String) (v : Value) : params.get? name = some v ↔ (name, v) ∈ failure.record :=
    Schema.get?_toParams_eq_some_iff rfl hnodup
  have hbuilt : failure.toFault causeId id = .ok ⟨Fault.annotate id a, a, failure.record⟩ := by
    have hformat : failure.direction.format ≠ "" := by cases failure.direction <;> decide
    have hwrap := Fault.wrap_contents cause id hformat rfl schema_wellFormed failure.contents
    dsimp only at hwrap
    rw [record_contents, show cause.fields = .empty from rfl, Params.atop_empty] at hwrap
    exact hwrap
  refine ⟨_, hbuilt, ?_, fun name v => ?_, fun flags options hflags => ?_, rfl, ?_⟩
  · have hpartial : failure.isPartial = decide (0 < failure.done) := by
      rw [isPartial, decide_eq_true hless, Bool.and_true]
    rw [← hpartial]
    rfl
  · rw [Fault.field?, Fault.fields_annotate]
    exact hget name v
  · refine Fault.project_eq_ok_iff.2 ⟨schema_wellFormed, options, hflags, ?_⟩
    rw [Fault.fields_annotate]
    exact Schema.read_of_held failure.contents (fun name v hmem => (hget name v).2 hmem) options.missing
  · have hmessage := failure.direction.render_format params
      ((hget _ _).2 List.mem_cons_self) ((hget "expected" (.uint (.ofNat failure.expected))).2 (by simp [record]))
      failure.cause.message
    rw [UInt64.toNat_ofNat_of_lt' (Nat.lt_trans hless hexpected), UInt64.toNat_ofNat_of_lt' hexpected] at hmessage
    exact hmessage

end TransferFailure

/-! ### Transfers -/

theorem IntegerFormat.size_lt (format : IntegerFormat) : format.size < UInt64.size := by
  obtain ⟨width, order⟩ := format
  have hall : ∀ width : IntegerWidth, width.bits / 8 < UInt64.size := by
    intro width
    cases width <;> decide
  exact hall width

/-- A transfer that fails reports its progress exactly. If the bytes of an integer come before the first obstacle, they are
read, no call is made for what comes behind them, and that is left. Otherwise reading fails at that obstacle, after all that
came before it; and so it is with writing, where the writer has then taken exactly the bytes that are reported. The report
is a fault that is always built: its record, its fields and what is projected from it are the same, its message tells the
progress and what was in the way, and that is its cause. Interruptions change nothing of this. -/
theorem reports_progress (format : IntegerFormat) :
    (∀ script : List ReadEvent,
      (format.size ≤ (Reader.arriving script).length →
        ∃ used left rest, script = used ++ rest ∧
          left ++ Reader.arriving rest = (Reader.arriving script).drop format.size ∧
          ∀ later, (Reader.ofScript (used ++ later)).read format =
            (.ok (format.decode ((Reader.arriving script).take format.size)), ⟨left, later⟩)) ∧
      ((Reader.arriving script).length < format.size →
        let failure : TransferFailure := ⟨.reading, (Reader.arriving script).length, format.size, Reader.obstacle script⟩
        ((Reader.ofScript script).read format).1 = .error failure ∧ failure.IsReported) ∧
      ((Reader.ofScript (script.filter (!·.isInterruption))).read format).1 =
        ((Reader.ofScript script).read format).1) ∧
    ∀ (script : List WriteEvent) (n : Nat),
      (format.size ≤ Writer.room script →
        ∃ used rest, script = used ++ rest ∧
          ∀ later, (Writer.ofScript (used ++ later)).write format n = (.ok (), ⟨later, format.encode n⟩)) ∧
      (Writer.room script < format.size →
        let failure : TransferFailure := ⟨.writing, Writer.room script, format.size, Writer.obstacle script⟩
        ((Writer.ofScript script).write format n).1 = .error failure ∧
          ((Writer.ofScript script).write format n).2.written = (format.encode n).take failure.done ∧
          failure.IsReported) ∧
      ((Writer.ofScript (script.filter (!·.isInterruption))).write format n).1 =
        ((Writer.ofScript script).write format n).1 := by
  refine ⟨fun script => ⟨Reader.read_of_enough, fun hless => ?_, Reader.fst_read_filter format script⟩,
    fun script n => ⟨Writer.write_of_room, fun hless => ?_, Writer.fst_write_filter format n script⟩⟩
  · exact ⟨Reader.read_of_too_little hless, TransferFailure.isReported hless format.size_lt⟩
  · obtain ⟨rest, hwrite⟩ := Writer.write_of_too_little (n := n) hless
    rw [hwrite]
    exact ⟨rfl, rfl, TransferFailure.isReported hless format.size_lt⟩

/-- Two chunks that are not enough, with an interruption between them; and a writer that fails after two bytes of four. -/
theorem reports_progress_interrupted :
    let timedOut : IoError := ⟨.timedOut, some "late"⟩
    let events : List ReadEvent := [.data [1, 2], .failure ⟨.interrupted, none⟩, .data [3], .data []]
    let answers : List WriteEvent := [.accept 2, .failure timedOut, .accept 2]
    let short : TransferFailure := ⟨.reading, 3, 4, .ofKind .unexpectedEof⟩
    let late : TransferFailure := ⟨.writing, 2, 4, timedOut⟩
    (Reader.arriving events).length < IntegerFormat.size ⟨.bits32, .little⟩ ∧
      Writer.room answers < IntegerFormat.size ⟨.bits32, .little⟩ ∧
      ((Reader.ofScript events).read ⟨.bits32, .little⟩).1 = .error short ∧ short.IsReported ∧
      ((Writer.ofScript answers).write ⟨.bits32, .little⟩ 0x04030201).1 = .error late ∧
      ((Writer.ofScript answers).write ⟨.bits32, .little⟩ 0x04030201).2.written = [1, 2] ∧ late.IsReported := by
  intro timedOut events answers short late
  have hevents : (Reader.arriving events).length < IntegerFormat.size ⟨.bits32, .little⟩ := by decide
  have hanswers : Writer.room answers < IntegerFormat.size ⟨.bits32, .little⟩ := by decide
  obtain ⟨hread, hshort⟩ := ((reports_progress ⟨.bits32, .little⟩).1 events).2.1 hevents
  obtain ⟨hwrite, hwritten, hlate⟩ := ((reports_progress ⟨.bits32, .little⟩).2 answers 0x04030201).2.1 hanswers
  exact ⟨hevents, hanswers, hread, hshort, hwrite, hwritten, hlate⟩

end Mishap
