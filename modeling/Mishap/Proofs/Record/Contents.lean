import Mishap.Proofs.Number.Binary32
import Mishap.Proofs.Params.Merging
import Mishap.Record

/-!
What a record holds, field by field, as against the values it is written as. Main statements: reading a field or a
record is taking its content and writing that again; and the content of a record is read back from any parameters that
hold its values, but for an optional content that is written as nil, which is read back as none.
-/

namespace Mishap

/-! ### Fields -/

namespace FieldType

/-- What a field of a type holds. -/
def Content : FieldType → Type
  | bool => Bool
  | signed width => { n : Int64 // fitsSigned width n }
  | unsigned width => { n : UInt64 // fitsUnsigned width n }
  | single => Binary32
  | double => Binary64
  | text => String
  | bytes => List UInt8
  | list => List Value
  | map => List (String × Value)
  | any => Value
  | optional inner => Option inner.Content

/-- The value that a content is written as. -/
def write : (type : FieldType) → type.Content → Value
  | bool, (b : Bool) => .bool b
  | signed _, n => .int n.val
  | unsigned _, n => .uint n.val
  | single, (x : Binary32) => .float x.widen
  | double, (x : Binary64) => .float x
  | text, (s : String) => .text s
  | bytes, (content : List UInt8) => .bytes content
  | list, (items : List Value) => .list items
  | map, (entries : List (String × Value)) => .map entries
  | any, (v : Value) => v
  | optional inner, (content : Option inner.Content) => content.elim .nil inner.write

/-- The content that a value is taken as, if a field of this type takes it. -/
def take? : (type : FieldType) → Value → Option type.Content
  | bool, .bool b => some b
  | signed width, v => v.asInt64?.bind fun n => if h : fitsSigned width n then some ⟨n, h⟩ else none
  | unsigned width, v => v.asUInt64?.bind fun n => if h : fitsUnsigned width n then some ⟨n, h⟩ else none
  | single, .float x => some (Binary32.narrow x)
  | double, .float x => some x
  | text, .text s => some s
  | bytes, .bytes content => some content
  | list, .list items => some items
  | map, .map entries => some entries
  | any, v => some v
  | optional inner, v => if v.isNil then some none else (inner.take? v).map some
  | _, _ => none

/-- The content of a field that nothing was given for. -/
def blank : (type : FieldType) → type.Content
  | bool => false
  | signed width => ⟨0, by cases width <;> decide⟩
  | unsigned width => ⟨0, by cases width <;> decide⟩
  | single => Binary32.zero
  | double => Binary64.zero false
  | text => ""
  | bytes => ([] : List UInt8)
  | list => ([] : List Value)
  | map => ([] : List (String × Value))
  | any => Value.nil
  | optional inner => (none : Option inner.Content)

/-- What becomes of a content when it is written and taken again: one that is optional and written as nil is gone. -/
def readBack : (type : FieldType) → type.Content → type.Content
  | optional inner, content => if ((optional inner).write content).isNil then (none : Option inner.Content) else content
  | _, content => content

/-- Whether no content but none is written as nil, unless it is nil. -/
def isPlain : FieldType → Bool
  | optional (optional _) => false
  | optional any => false
  | _ => true

theorem default_eq (type : FieldType) : type.default = type.write type.blank := by cases type <;> rfl

/-- What a field holds of a value is what it takes of it, written again. -/
theorem assign?_eq (type : FieldType) (v : Value) : type.assign? v = (type.take? v).map type.write := by
  induction type with
  | signed width =>
    rw [assign?, take?]
    cases v.asInt64? with
    | none => rfl
    | some n => by_cases h : fitsSigned width n <;> simp only [Option.filter, Option.bind_some, h] <;> rfl
  | unsigned width =>
    rw [assign?, take?]
    cases v.asUInt64? with
    | none => rfl
    | some n => by_cases h : fitsUnsigned width n <;> simp only [Option.filter, Option.bind_some, h] <;> rfl
  | optional inner ih =>
    rw [assign?, take?]
    split
    · rfl
    · rw [ih]
      cases inner.take? v <;> rfl
  | single =>
    cases v with
    | float x => exact congrArg (fun y => some (Value.float y)) (Binary32.widen_narrow x).symm
    | _ => rfl
  | any => cases v <;> rfl
  | _ => cases v <;> rfl

section Optional

variable {inner : FieldType} {content : (optional inner).Content}

theorem readBack_of_nil (h : ((optional inner).write content).isNil) :
    (optional inner).readBack content = (none : Option inner.Content) := if_pos h

theorem readBack_of_not_nil (h : ((optional inner).write content).isNil = false) :
    (optional inner).readBack content = content := if_neg (Bool.not_eq_true _ ▸ h)

end Optional

/-- A content is taken back from the value it is written as. -/
theorem take?_write (type : FieldType) (content : type.Content) :
    type.take? (type.write content) = some (type.readBack content) := by
  induction type with
  | signed width =>
    simp only [write, take?, Value.asInt64?, Option.bind_some, content.property, dif_pos]
    rfl
  | unsigned width =>
    simp only [write, take?, Value.asUInt64?, Option.bind_some, content.property, dif_pos]
    rfl
  | single => exact congrArg some (Binary32.narrow_widen content)
  | optional inner ih =>
    rw [take?]
    cases hnil : ((optional inner).write content).isNil with
    | true => exact congrArg some (readBack_of_nil hnil).symm
    | false =>
      rw [if_neg Bool.false_ne_true, readBack_of_not_nil hnil]
      cases content with
      | none => cases hnil
      | some content =>
        have hinner : inner.readBack content = content := by
          cases inner with
          | optional inner => exact readBack_of_not_nil hnil
          | _ => rfl
        change (inner.take? (inner.write content)).map some = _
        rw [ih, hinner]
        rfl
  | any => simp only [take?, write, readBack]
  | _ => rfl

theorem write_readBack (type : FieldType) (content : type.Content) :
    type.write (type.readBack content) = type.write content := by
  cases type with
  | optional inner =>
    cases hnil : ((optional inner).write content).isNil with
    | true =>
      rw [readBack_of_nil hnil]
      cases hwritten : (optional inner).write content with
      | nil => rfl
      | _ => rw [hwritten] at hnil; cases hnil
    | false => rw [readBack_of_not_nil hnil]
  | _ => rfl

theorem readBack_of_isPlain {type : FieldType} (h : type.isPlain) (content : type.Content) :
    type.readBack content = content := by
  cases type with
  | optional inner =>
    cases content with
    | none => rfl
    | some content =>
      refine readBack_of_not_nil ?_
      cases inner with
      | any => cases h
      | optional inner => cases h
      | _ => rfl
  | _ => rfl

end FieldType

namespace Field

/-- Takes the content of one field from parameters. -/
def take (field : Field) (missing : MissingData) (params : Params) : Except DataError field.type.Content :=
  match params.get? field.name, missing with
  | some v, _ =>
    match field.type.take? v with
    | some content => .ok content
    | none => .error (.typeMismatch field.name field.type.kind v.kind)
  | none, .asZero => .ok field.type.blank
  | none, .isError => .error (.missingField field.name field.type.kind)

theorem read_eq (field : Field) (missing : MissingData) (params : Params) :
    field.read missing params = (field.take missing params).map field.type.write := by
  rw [read.eq_def, take.eq_def]
  cases params.get? field.name with
  | none =>
    cases missing with
    | isError => rfl
    | asZero => exact congrArg Except.ok field.type.default_eq
  | some v =>
    simp only [FieldType.assign?_eq]
    cases field.type.take? v <;> rfl

end Field

/-! ### Parameters filled once -/

namespace Params

open Entries (lookup)

theorem lookup_foldl_insert {pairs : List (String × Value)} (hnodup : (pairs.map Prod.fst).Nodup)
    (entries : List (String × Value)) (name : String) (v : Value) :
    lookup name (pairs.foldl (fun entries pair => Entries.insert pair.1 pair.2 entries) entries) = some v ↔
      (name, v) ∈ pairs ∨ (name ∉ pairs.map Prod.fst ∧ lookup name entries = some v) := by
  induction pairs generalizing entries with
  | nil => simp
  | cons pair rest ih =>
    obtain ⟨n, w⟩ := pair
    rw [List.map_cons, List.nodup_cons] at hnodup
    rw [List.foldl_cons, ih hnodup.2, Entries.lookup_insert, List.mem_cons, List.map_cons, List.mem_cons]
    by_cases hname : name = n
    · -- the later names are different ones, and so the value stays
      subst hname
      have hrest : (name, v) ∉ rest := fun hmem => hnodup.1 (List.mem_map.2 ⟨_, hmem, rfl⟩)
      simp [hrest, hnodup.1, eq_comm]
    · simp [hname]

/-- What is put in under names of which none is repeated is what is in. -/
theorem get?_ofList_eq_some_iff {pairs : List (String × Value)} (hnodup : (pairs.map Prod.fst).Nodup) {name : String}
    {v : Value} : (ofList pairs).get? name = some v ↔ (name, v) ∈ pairs := by
  refine (lookup_foldl_insert hnodup [] name v).trans ?_
  simp [lookup]

end Params

/-! ### Records -/

/-- What a record of the given fields holds. -/
def Contents : List Field → Type
  | [] => Unit
  | field :: rest => field.type.Content × Contents rest

namespace Contents

/-- The record that contents are written as. -/
def record : (fields : List Field) → Contents fields → Record
  | [], _ => []
  | field :: rest, (content, contents) => (field.name, field.type.write content) :: record rest contents

/-- Takes the content of all fields in order; the first that fails decides. -/
def take (missing : MissingData) (params : Params) : (fields : List Field) → Except DataError (Contents fields)
  | [] => .ok ()
  | field :: rest => do return (← field.take missing params, ← take missing params rest)

def readBack : (fields : List Field) → Contents fields → Contents fields
  | [], _ => ()
  | field :: rest, (content, contents) => (field.type.readBack content, readBack rest contents)

variable {fields : List Field} {missing : MissingData} {params : Params}

theorem mapM_read_eq (missing : MissingData) (params : Params) (fields : List Field) :
    (fields.mapM fun field => return (field.name, ← field.read missing params)) =
      (take missing params fields).map (record fields) := by
  induction fields with
  | nil => rfl
  | cons field rest ih =>
    rw [List.mapM_cons, ih, take, Field.read_eq]
    cases field.take missing params with
    | error failure => rfl
    | ok content => cases take missing params rest <;> rfl

theorem map_fst_record (contents : Contents fields) :
    (record fields contents).map Prod.fst = fields.map Field.name := by
  induction fields with
  | nil => rfl
  | cons field rest ih =>
    obtain ⟨content, contents⟩ := contents
    rw [record, List.map_cons, List.map_cons, ih]

theorem record_readBack (contents : Contents fields) :
    record fields (readBack fields contents) = record fields contents := by
  induction fields with
  | nil => rfl
  | cons field rest ih =>
    obtain ⟨content, contents⟩ := contents
    rw [readBack, record, record, FieldType.write_readBack, ih]

theorem readBack_of_isPlain (h : ∀ field ∈ fields, field.type.isPlain) (contents : Contents fields) :
    readBack fields contents = contents := by
  induction fields with
  | nil => rfl
  | cons field rest ih =>
    rw [List.forall_mem_cons] at h
    obtain ⟨content, contents⟩ := contents
    rw [readBack, FieldType.readBack_of_isPlain h.1, ih h.2]

/-- Contents are taken back from any parameters that hold the values they are written as. -/
theorem take_of_held (contents : Contents fields)
    (h : ∀ name v, (name, v) ∈ record fields contents → params.get? name = some v) :
    take missing params fields = .ok (readBack fields contents) := by
  induction fields with
  | nil => rfl
  | cons field rest ih =>
    obtain ⟨content, contents⟩ := contents
    have hfield : field.take missing params = .ok (field.type.readBack content) := by
      simp only [Field.take.eq_def, h _ _ List.mem_cons_self, FieldType.take?_write]
    rw [take, hfield, ih contents fun name v hmem => h name v (List.mem_cons_of_mem _ hmem)]
    rfl

end Contents

namespace Schema

theorem read_eq (schema : Schema) (missing : MissingData) (params : Params) :
    schema.read missing params =
      (Contents.take missing params schema.fields).map (Contents.record schema.fields) :=
  Contents.mapM_read_eq missing params schema.fields

theorem exists_contents_of_read {schema : Schema} {missing : MissingData} {params : Params} {record : Record}
    (h : schema.read missing params = .ok record) :
    ∃ contents, Contents.take missing params schema.fields = .ok contents ∧
      record = Contents.record schema.fields contents := by
  rw [read_eq] at h
  cases htake : Contents.take missing params schema.fields with
  | error failure =>
    rw [htake] at h
    cases h
  | ok contents =>
    rw [htake] at h
    exact ⟨contents, rfl, (Except.ok.inj h).symm⟩

theorem get?_toParams_eq_some_iff {schema : Schema} (homitted : schema.omitted = []) {record : Record}
    (hnodup : (record.map Prod.fst).Nodup) {name : String} {v : Value} :
    (schema.toParams record).get? name = some v ↔ (name, v) ∈ record := by
  have hall : (record.filter fun entry => !schema.omitted.contains entry.1) = record := by simp [homitted]
  rw [toParams, hall, Params.get?_ofList_eq_some_iff hnodup]

end Schema

end Mishap
