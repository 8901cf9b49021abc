import Mishap.Params.Edition
import Mishap.Proofs.Fault.Modification
import Mishap.Proofs.Fault.Projection

/-!
Records that were read from a fault and are attached to it again, where conflicts are refused. Main statement: that
adds nothing if every value is kept by the field that reads it, and is a conflict if one is changed or not a number.
-/

namespace Mishap

/-! ### What a field keeps -/

namespace Binary64

/-- Rounding keeps the sign, and so a number that it leaves the same is the number it was. -/
theorem toSingle_eq_of_same {x : Binary64} (h : x.toSingle.same x) : x.toSingle = x := by
  cases x with
  | nan => rfl
  | infinity negative => rfl
  | finite negative exponent fraction =>
    have hsign : (∃ e f, toSingle (finite negative exponent fraction) = finite negative e f) ∨
        toSingle (finite negative exponent fraction) = infinity negative := by
      rw [toSingle]
      split
      · rw [ofRatio]
        split
        · exact .inl ⟨_, _, rfl⟩
        · exact .inr rfl
      · exact .inr rfl
    rcases hsign with ⟨e, f, hfinite⟩ | hinfinite
    · rw [hfinite] at h ⊢
      simp only [same, Bool.and_eq_true, beq_iff_eq] at h
      rw [h.1.1, h.1.2]
    · rw [hinfinite] at h
      cases h

end Binary64

namespace Value

/-- A value that is the same as itself is steady. -/
theorem isSteady_of_same {v : Value} (h : v.same v) : v.isSteady := by
  refine isSteady.induct (fun v => v.same v → v.isSteady) (fun items => sameItems items items → steadyItems items)
    ?_ ?_ ?_ ?_ ?_ v h
  · exact fun x hsame => hsame
  · exact fun items ih hsame => ih hsame
  · intro v hfloat hlist _
    cases v with
    | float x => exact absurd rfl (hfloat x)
    | list items => exact absurd rfl (hlist items)
    | _ => rfl
  · exact fun _ => rfl
  · intro v rest ihv ihrest hsame
    rw [sameItems, Bool.and_eq_true] at hsame
    rw [steadyItems, Bool.and_eq_true]
    exact ⟨ihv hsame.1, ihrest hsame.2⟩

end Value

namespace FieldType

/-- What a field holds of a value is the value, or is different from it. -/
theorem eq_of_assign?_same {type : FieldType} {v held : Value} (h : type.assign? v = some held) (hsame : held.same v) :
    held = v := by
  induction type with
  | signed width =>
    obtain ⟨m, -, rfl⟩ := Option.map_eq_some_iff.1 h
    cases v with
    | int n => exact congrArg Value.int (eq_of_beq hsame)
    | _ => cases hsame
  | unsigned width =>
    obtain ⟨m, -, rfl⟩ := Option.map_eq_some_iff.1 h
    cases v with
    | uint n => exact congrArg Value.uint (eq_of_beq hsame)
    | _ => cases hsame
  | single =>
    cases v with
    | float x =>
      cases h
      exact congrArg Value.float (Binary64.toSingle_eq_of_same hsame)
    | _ => cases h
  | optional inner ih =>
    rw [assign?] at h
    split at h
    · cases h
      cases v with
      | nil => rfl
      | _ => cases hsame
    · exact ih h
  | any =>
    rw [assign?] at h
    exact (Option.some.inj h).symm
  | _ =>
    cases v <;> cases h
    rfl

end FieldType

/-! ### Records that were read -/

theorem Field.read_eq_ok_iff {field : Field} {params : Params} {held : Value} :
    field.read .isError params = .ok held ↔
      ∃ v, params.get? field.name = some v ∧ field.type.assign? v = some held := by
  rw [read.eq_def]
  cases params.get? field.name with
  | none => simp
  | some v => cases hassign : field.type.assign? v <;> simp [hassign]

namespace Schema

/-- Fields are read one by one: every one is read, and the record holds what is read and nothing else. -/
theorem mapM_read_eq_ok {fields : List Field} {params : Params} {record : Record}
    (h : (fields.mapM fun field => return (field.name, ← field.read .isError params)) = .ok record) :
    (∀ field ∈ fields, ∃ held, field.read .isError params = .ok held) ∧
      ∀ name held, (name, held) ∈ record ↔
        ∃ field ∈ fields, field.name = name ∧ field.read .isError params = .ok held := by
  induction fields generalizing record with
  | nil =>
    cases h
    simp
  | cons field rest ih =>
    rw [List.mapM_cons] at h
    cases hread : field.read .isError params with
    | error failure =>
      rw [hread] at h
      cases h
    | ok first =>
      cases hrest : rest.mapM fun field => return (field.name, ← field.read .isError params) with
      | error failure =>
        rw [hread, hrest] at h
        cases h
      | ok others =>
        rw [hread, hrest] at h
        cases h
        obtain ⟨hall, hmem⟩ := ih hrest
        refine ⟨List.forall_mem_cons.2 ⟨⟨first, hread⟩, hall⟩, fun name held => ?_⟩
        rw [List.mem_cons, hmem, List.exists_mem_cons_iff, hread, Prod.mk.injEq, Except.ok.injEq,
          @eq_comm _ name, @eq_comm _ held]

variable {schema : Schema} {params : Params} {record : Record}

theorem mem_of_read (h : schema.read .isError params = .ok record) {name : String} {held : Value} :
    (name, held) ∈ record ↔ ∃ field ∈ schema.fields, field.name = name ∧
      ∃ v, params.get? field.name = some v ∧ field.type.assign? v = some held := by
  simp only [(mapM_read_eq_ok h).2, Field.read_eq_ok_iff]

theorem exists_held_of_read (h : schema.read .isError params = .ok record) {field : Field}
    (hfield : field ∈ schema.fields) {v : Value} (hv : params.get? field.name = some v) :
    ∃ held, field.type.assign? v = some held := by
  obtain ⟨held, hread⟩ := (mapM_read_eq_ok h).1 field hfield
  obtain ⟨w, hw, hassign⟩ := Field.read_eq_ok_iff.1 hread
  cases hv.symm.trans hw
  exact ⟨held, hassign⟩

end Schema

namespace Fault

/-- Whether all that a record reads of a fault is what is there, and is the same as itself. -/
def KeptBy (f : Fault) (schema : Schema) : Prop :=
  ∀ field ∈ schema.fields, ∀ v, f.fields.get? field.name = some v → field.type.assign? v = some v ∧ v.same v

/-- Whether a record reads something else than what is there, or a number that is none, be it in a list. -/
def ChangedBy (f : Fault) (schema : Schema) : Prop :=
  ∃ field ∈ schema.fields, ∃ v, f.fields.get? field.name = some v ∧
    (field.type.assign? v ≠ some v ∨ v.isSteady = false)

variable {f : Fault} {schema : Schema} {record : Record}

/-- The values of a record that was read from a fault. -/
theorem get?_toParams_of_read (homitted : schema.omitted = []) (hwell : ¬ schema.Malformed)
    (hread : schema.read .isError f.fields = .ok record) {name : String} {held : Value} :
    (schema.toParams record).get? name = some held ↔ ∃ field ∈ schema.fields, field.name = name ∧
      ∃ v, f.fields.get? field.name = some v ∧ field.type.assign? v = some held := by
  have hnodup : (record.map Prod.fst).Nodup := by
    obtain ⟨contents, -, rfl⟩ := Schema.exists_contents_of_read hread
    rw [Contents.map_fst_record]
    exact Schema.nodup_of_not_malformed hwell
  rw [Schema.get?_toParams_eq_some_iff homitted hnodup, Schema.mem_of_read hread]

theorem compatible_of_keptBy (homitted : schema.omitted = []) (hwell : ¬ schema.Malformed)
    (hread : schema.read .isError f.fields = .ok record) (h : f.KeptBy schema) :
    (schema.toParams record).Compatible f.fields := by
  intro name held v hheld hv
  obtain ⟨field, hfield, rfl, w, hw, hassign⟩ := (get?_toParams_of_read homitted hwell hread).1 hheld
  obtain ⟨hkept, hsame⟩ := h field hfield w hw
  cases hassign.symm.trans hkept
  cases hv.symm.trans hw
  exact hsame

theorem atop_of_compatible (homitted : schema.omitted = []) (hwell : ¬ schema.Malformed)
    (hread : schema.read .isError f.fields = .ok record) (h : (schema.toParams record).Compatible f.fields) :
    (schema.toParams record).atop f.fields = f.fields := by
  refine Params.ext_get? fun name => ?_
  rw [Params.get?_atop]
  cases hget : (schema.toParams record).get? name with
  | none => rw [Option.none_or]
  | some held =>
    obtain ⟨field, hfield, rfl, v, hv, hassign⟩ := (get?_toParams_of_read homitted hwell hread).1 hget
    rw [Option.some_or, hv, FieldType.eq_of_assign?_same hassign (h _ _ _ hget hv)]

theorem not_changedBy_of_compatible (homitted : schema.omitted = []) (hwell : ¬ schema.Malformed)
    (hread : schema.read .isError f.fields = .ok record) (h : (schema.toParams record).Compatible f.fields) :
    ¬ f.ChangedBy schema := by
  rintro ⟨field, hfield, v, hv, hchanged⟩
  obtain ⟨held, hassign⟩ := Schema.exists_held_of_read hread hfield hv
  have hget : (schema.toParams record).get? field.name = some held :=
    (get?_toParams_of_read homitted hwell hread).2 ⟨field, hfield, rfl, v, hv, hassign⟩
  have hsame : held.same v := h _ _ _ hget hv
  obtain rfl := FieldType.eq_of_assign?_same hassign hsame
  rcases hchanged with hchanged | hunsteady
  · exact hchanged hassign
  · rw [Value.isSteady_of_same hsame] at hunsteady
    cases hunsteady

/-- Attaching what was read, conflicts being refused, leaves the data as it is or is a conflict. -/
theorem tryAddData_of_read (homitted : schema.omitted = []) (hwell : ¬ schema.Malformed)
    (hread : schema.read .isError f.fields = .ok record) (id : Identity) :
    ((schema.toParams record).Compatible f.fields ∧
      ∃ handle, f.tryAddData id schema record [.errorOnConflict] = .ok handle ∧ handle.fault.fields = f.fields ∧
        handle.record = record) ∨
    (¬ (schema.toParams record).Compatible f.fields ∧
      ∃ conflict, f.tryAddData id schema record [.errorOnConflict] = .error (.data (.mergeConflict conflict))) := by
  let c : Construction := .wrap f "" schema record [.errorOnConflict]
  have hflags : ¬ Flag.Misused c.draft.flags :=
    Flag.not_misused_of_forall_eq (by decide) fun flag hflag => List.mem_singleton.1 hflag
  have hcause : c.draft.cause ≠ none := by simp [c, Construction.draft]
  have hmisuse := Draft.no_misuse hwell hflags fun _ => hcause
  have hmerged : c.draft.merged = (schema.toParams record).merge .errorOnConflict f.fields := rfl
  cases hmerge : (schema.toParams record).merge .errorOnConflict f.fields with
  | error conflict =>
    refine .inr ⟨fun hcompatible => ?_, conflict, (Construction.of_conflict hmisuse (hmerged.trans hmerge)).1⟩
    cases hmerge.symm.trans (Params.merge_of_compatible hcompatible)
  | ok params =>
    have hcompatible := Params.compatible_of_merge hmerge
    have hparams : params = f.fields :=
      (Params.eq_atop_of_merge (by decide) hmerge).trans (atop_of_compatible homitted hwell hread hcompatible)
    rw [hparams] at hmerge
    let a := c.draft.noteWith f.fields
    have hrelays : a.Relays f := ⟨rfl, rfl⟩
    have hverify : a.template.verifyOwn f.fields a.voice? = .ok () := hrelays.verify_eq_ok .own a.params .empty
    have hbuilt : c.trying id = _ := Construction.trying_of_read hmisuse (hmerged.trans hmerge) hverify
    rw [show c.draft.schema = schema from rfl, hread] at hbuilt
    exact .inl ⟨hcompatible, _, hbuilt, Fault.fields_annotate id a, rfl⟩

/-- A fault with one value. -/
def holding (v : Value) : Fault := annotate 0 ⟨Template.ofFormat "late", .singleton "n" v, none⟩

/-- The records of one field. -/
def readingAs (type : FieldType) : Schema := ⟨[⟨"n", type⟩], []⟩

/-- A tenth, as near as it gets. -/
def tenth : Binary64 := .finite false ⟨1019, by decide⟩ ⟨0x999999999999a, by decide⟩

end Fault

end Mishap
