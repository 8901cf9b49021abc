import Mishap.Proofs.Fault.Projection
import Mishap.Proofs.Number.Rounded

/-!
When data satisfies a schema. Main statement: a record is read from parameters exactly if every field finds a value that
it can be assigned, or none where zeros stand in for missing data; otherwise the first field that does not decides the
failure.
-/

namespace Mishap

/-! ### Values as whole numbers -/

namespace Value

/-- The whole number that a value of either integer kind is. -/
def integer? : Value → Option ℤ
  | int n => some n.toInt
  | uint n => some n.toNat
  | _ => none

theorem asInt64?_eq_some_iff {v : Value} {n : Int64} : v.asInt64? = some n ↔ v.integer? = some n.toInt := by
  cases v with
  | int m => simp only [asInt64?, integer?, Option.some.injEq, Int64.toInt_inj]
  | uint m =>
    have hmost := Int64.toInt_lt n
    simp only [asInt64?, integer?]
    split
    · next hfits =>
      have hsame : (Int64.ofNat m.toNat).toInt = m.toNat := by
        rw [Int64.toInt_ofNat_of_lt]
        exact hfits
      rw [Option.some.injEq, Option.some.injEq, ← Int64.toInt_inj, hsame]
    · simp only [reduceCtorEq, Option.some.injEq, false_iff]
      omega
  | _ => simp [asInt64?, integer?]

theorem asUInt64?_eq_some_iff {v : Value} {n : UInt64} : v.asUInt64? = some n ↔ v.integer? = some (n.toNat : ℤ) := by
  cases v with
  | uint m => simp only [asUInt64?, integer?, Option.some.injEq, Nat.cast_inj, UInt64.toNat_inj]
  | int m =>
    have hmost := Int64.toInt_lt m
    simp only [asUInt64?, integer?]
    split
    · next hfits =>
      have hsame : (UInt64.ofNat m.toInt.toNat).toNat = m.toInt.toNat :=
        UInt64.toNat_ofNat_of_lt' (show m.toInt.toNat < 2 ^ 64 by omega)
      rw [Option.some.injEq, Option.some.injEq, ← UInt64.toNat_inj, hsame]
      omega
    · simp only [reduceCtorEq, Option.some.injEq, false_iff]
      omega
  | _ => simp [asUInt64?, integer?]

end Value

/-! ### Types -/

namespace FieldType

/-- Whether a field of a type is assigned a value, and what it then holds. -/
inductive Assigns : FieldType → Value → Value → Prop
  | signed {width : IntegerWidth} {v : Value} {n : ℤ} (whole : v.integer? = some n)
      (least : -2 ^ (width.bits - 1) ≤ n) (greatest : n < 2 ^ (width.bits - 1)) :
      Assigns (signed width) v (.int (.ofInt n))
  | unsigned {width : IntegerWidth} {v : Value} {n : ℕ} (whole : v.integer? = some (n : ℤ))
      (greatest : n < 2 ^ width.bits) : Assigns (unsigned width) v (.uint (.ofNat n))
  | single {x : Binary64} {y : Binary32} (rounded : y.RoundedFrom x) : Assigns single (.float x) (.float y.widen)
  | double (x : Binary64) : Assigns double (.float x) (.float x)
  | bool (b : Bool) : Assigns bool (.bool b) (.bool b)
  | text (s : String) : Assigns text (.text s) (.text s)
  | bytes (content : List UInt8) : Assigns bytes (.bytes content) (.bytes content)
  | list (items : List Value) : Assigns list (.list items) (.list items)
  | map (entries : List (String × Value)) : Assigns map (.map entries) (.map entries)
  | any (v : Value) : Assigns any v v
  | absent (inner : FieldType) : Assigns (optional inner) .nil .nil
  | present {inner : FieldType} {v held : Value} (present : v ≠ .nil) (assigned : Assigns inner v held) :
      Assigns (optional inner) v held

theorem toInt_ofInt_of_fits {width : IntegerWidth} {n : ℤ} (hleast : -2 ^ (width.bits - 1) ≤ n)
    (hgreatest : n < 2 ^ (width.bits - 1)) : (Int64.ofInt n).toInt = n := by
  have hbits : (2 : ℤ) ^ (width.bits - 1) ≤ 2 ^ 63 := by cases width <;> decide
  refine Int64.toInt_ofInt_of_le ?_ (hgreatest.trans_le hbits)
  exact (neg_le_neg hbits).trans hleast

theorem toNat_ofNat_of_fits {width : IntegerWidth} {n : ℕ} (hgreatest : n < 2 ^ width.bits) :
    (UInt64.ofNat n).toNat = n := by
  have hbits : 2 ^ width.bits ≤ 2 ^ 64 := by cases width <;> decide
  exact UInt64.toNat_ofNat_of_lt' (hgreatest.trans_le hbits)

theorem fitsSigned_iff {width : IntegerWidth} {n : Int64} :
    fitsSigned width n ↔ -2 ^ (width.bits - 1) ≤ n.toInt ∧ n.toInt < 2 ^ (width.bits - 1) := by
  simp [fitsSigned, and_comm]

theorem fitsUnsigned_iff {width : IntegerWidth} {n : UInt64} : fitsUnsigned width n ↔ n.toNat < 2 ^ width.bits := by
  simp [fitsUnsigned]

theorem assign?_signed_iff {width : IntegerWidth} {v held : Value} :
    (signed width).assign? v = some held ↔ (signed width).Assigns v held := by
  have hassign : (signed width).assign? v = some held ↔
      ∃ n, v.integer? = some n.toInt ∧ fitsSigned width n ∧ .int n = held := by
    simp [assign?, Option.filter_eq_some_iff, Value.asInt64?_eq_some_iff, and_assoc]
  rw [hassign]
  constructor
  · rintro ⟨n, hwhole, hfits, rfl⟩
    obtain ⟨hleast, hgreatest⟩ := fitsSigned_iff.1 hfits
    rw [← Int64.ofInt_toInt n]
    exact .signed hwhole hleast hgreatest
  · intro h
    cases h with
    | @signed _ _ n hwhole hleast hgreatest =>
      have hsame := toInt_ofInt_of_fits hleast hgreatest
      exact ⟨.ofInt n, by rw [hsame, hwhole], fitsSigned_iff.2 (by rw [hsame]; exact ⟨hleast, hgreatest⟩), rfl⟩

theorem assign?_unsigned_iff {width : IntegerWidth} {v held : Value} :
    (unsigned width).assign? v = some held ↔ (unsigned width).Assigns v held := by
  have hassign : (unsigned width).assign? v = some held ↔
      ∃ n, v.integer? = some (n.toNat : ℤ) ∧ fitsUnsigned width n ∧ .uint n = held := by
    simp [assign?, Option.filter_eq_some_iff, Value.asUInt64?_eq_some_iff, and_assoc]
  rw [hassign]
  constructor
  · rintro ⟨n, hwhole, hfits, rfl⟩
    rw [← UInt64.ofNat_toNat (x := n)]
    exact .unsigned hwhole (fitsUnsigned_iff.1 hfits)
  · intro h
    cases h with
    | @unsigned _ _ n hwhole hgreatest =>
      have hsame := toNat_ofNat_of_fits hgreatest
      exact ⟨.ofNat n, by rw [hsame, hwhole], fitsUnsigned_iff.2 (by rw [hsame]; exact hgreatest), rfl⟩

theorem assign?_single_iff {v held : Value} : single.assign? v = some held ↔ single.Assigns v held := by
  constructor
  · intro h
    cases v with
    | float x =>
      cases h
      rw [← Binary32.widen_narrow]
      exact .single (Binary32.roundedFrom_narrow x)
    | _ => cases h
  · intro h
    cases h with
    | single rounded => rw [Binary32.roundedFrom_iff.1 rounded, Binary32.widen_narrow, assign?]

/-- The values that a field is assigned are the ones it takes. -/
theorem assign?_eq_some_iff {type : FieldType} {v held : Value} :
    type.assign? v = some held ↔ type.Assigns v held := by
  induction type with
  | signed width => exact assign?_signed_iff
  | unsigned width => exact assign?_unsigned_iff
  | single => exact assign?_single_iff
  | optional inner ih =>
    rw [assign?]
    constructor
    · intro h
      split at h
      · next hnil =>
        cases h
        cases v <;> cases hnil
        exact .absent inner
      · next hnil => exact .present (fun hv => hnil (hv ▸ rfl)) (ih.1 h)
    · intro h
      cases h with
      | absent => rfl
      | present hpresent hassigned =>
        rw [if_neg, ih.2 hassigned]
        intro hnil
        cases v <;> cases hnil
        exact hpresent rfl
  | any =>
    rw [assign?, Option.some.injEq]
    constructor
    · rintro rfl
      exact .any v
    · rintro ⟨⟩
      rfl
  | _ =>
    constructor
    · intro h
      cases v <;> cases h
      constructor
    · intro h
      cases h
      rfl

/-- An integer field holds the number that it is assigned. -/
theorem integer?_of_assigns {type : FieldType} {v held : Value} (h : type.Assigns v held)
    (hinteger : ∃ width, type = signed width ∨ type = unsigned width) : held.integer? = v.integer? := by
  cases h with
  | signed whole least greatest => rw [whole, Value.integer?, toInt_ofInt_of_fits least greatest]
  | unsigned whole greatest => rw [whole, Value.integer?, toNat_ofNat_of_fits greatest]
  | any v => rfl
  | _ => obtain ⟨width, hwidth | hwidth⟩ := hinteger <;> cases hwidth

theorem take?_optional_eq_none_iff {inner : FieldType} {v : Value} :
    (optional inner).take? v = some (none : Option inner.Content) ↔ v = .nil := by
  rw [take?]
  cases v with
  | nil => exact iff_of_true rfl rfl
  | _ =>
    refine iff_of_false (fun h => ?_) Value.noConfusion
    obtain ⟨content, -, hnone⟩ := Option.map_eq_some_iff.1 h
    cases hnone

end FieldType

/-! ### Fields -/

namespace Field

variable {field : Field} {missing : MissingData} {params : Params}

/-- What a field reads from parameters: what it holds of the value of its name, or what stands in for it. -/
inductive Gives (field : Field) (missing : MissingData) (params : Params) : Value → Prop
  | present {v held : Value} (present : params.get? field.name = some v) (assigned : field.type.Assigns v held) :
      Gives field missing params held
  | absent (absent : params.get? field.name = none) (zero : missing = .asZero) :
      Gives field missing params field.type.default

def Satisfied (field : Field) (missing : MissingData) (params : Params) : Prop :=
  (∃ v held, params.get? field.name = some v ∧ field.type.Assigns v held) ∨
    params.get? field.name = none ∧ missing = .asZero

/-- The failure of a field that is not satisfied. -/
inductive FailsWith (field : Field) (missing : MissingData) (params : Params) : DataError → Prop
  | mismatch {v : Value} (present : params.get? field.name = some v) (unassigned : ∀ held, ¬ field.type.Assigns v held) :
      FailsWith field missing params (.typeMismatch field.name field.type.kind v.kind)
  | missing (absent : params.get? field.name = none) (strict : missing = .isError) :
      FailsWith field missing params (.missingField field.name field.type.kind)

theorem read_eq_ok_iff_gives {held : Value} : field.read missing params = .ok held ↔ field.Gives missing params held := by
  rw [read.eq_def]
  constructor
  · intro h
    split at h
    · next v _ hv =>
      split at h
      · next hassign =>
        cases h
        exact .present hv (FieldType.assign?_eq_some_iff.1 hassign)
      · cases h
    · next hv =>
      cases h
      exact .absent hv rfl
    · cases h
  · rintro (⟨hv, hassigned⟩ | ⟨hv, rfl⟩)
    · simp only [hv, FieldType.assign?_eq_some_iff.2 hassigned]
    · simp only [hv]

theorem read_eq_error_iff {failure : DataError} :
    field.read missing params = .error failure ↔ field.FailsWith missing params failure := by
  rw [read.eq_def]
  constructor
  · intro h
    split at h
    · next v _ hv =>
      split at h
      · cases h
      · next hassign =>
        cases h
        refine .mismatch hv fun held hassigned => ?_
        rw [FieldType.assign?_eq_some_iff.2 hassigned] at hassign
        cases hassign
    · cases h
    · next hv =>
      cases h
      exact .missing hv rfl
  · rintro (⟨hv, hunassigned⟩ | ⟨hv, rfl⟩)
    · have hassign : field.type.assign? _ = none :=
        Option.eq_none_iff_forall_ne_some.2 fun held h => hunassigned held (FieldType.assign?_eq_some_iff.1 h)
      simp only [hv, hassign]
    · simp only [hv]

theorem satisfied_iff_exists_gives : field.Satisfied missing params ↔ ∃ held, field.Gives missing params held := by
  constructor
  · rintro (⟨v, held, hv, hassigned⟩ | ⟨hv, hzero⟩)
    · exact ⟨held, .present hv hassigned⟩
    · exact ⟨_, .absent hv hzero⟩
  · rintro ⟨held, ⟨hv, hassigned⟩ | ⟨hv, hzero⟩⟩
    · exact .inl ⟨_, held, hv, hassigned⟩
    · exact .inr ⟨hv, hzero⟩

end Field

/-! ### Schemas -/

section Traversal

variable {α β ε : Type} {f : α → Except ε β} {items : List α}

theorem mapM_eq_ok_iff {results : List β} :
    items.mapM f = .ok results ↔ List.Forall₂ (fun a b => f a = .ok b) items results := by
  induction items generalizing results with
  | nil => cases results <;> simp [pure, Except.pure]
  | cons a rest ih =>
    rw [List.mapM_cons]
    cases ha : f a with
    | error e => cases results <;> simp [bind, Except.bind, ha]
    | ok b =>
      cases hrest : rest.mapM f with
      | error e => cases results <;> simp [bind, Except.bind, ← ih, ha, hrest]
      | ok others => cases results <;> simp [bind, Except.bind, pure, Except.pure, ← ih, ha, hrest]

/-- The first item that fails decides, and those in front of it do not fail. -/
theorem mapM_eq_error_iff {e : ε} :
    items.mapM f = .error e ↔
      ∃ before a after, items = before ++ a :: after ∧ (∀ b ∈ before, ∃ c, f b = .ok c) ∧ f a = .error e := by
  induction items with
  | nil => simp [pure, Except.pure]
  | cons a rest ih =>
    rw [List.mapM_cons]
    cases ha : f a with
    | error found =>
      constructor
      · intro h
        cases h
        exact ⟨[], a, rest, rfl, by simp, ha⟩
      · rintro ⟨_ | ⟨b, before⟩, c, after, hitems, hbefore, hc⟩
        · cases hitems
          cases ha.symm.trans hc
          rfl
        · cases hitems
          obtain ⟨_, hb⟩ := hbefore _ List.mem_cons_self
          cases ha.symm.trans hb
    | ok b =>
      have hstep : (do return b :: (← rest.mapM f)) = .error e ↔ rest.mapM f = .error e := by
        cases rest.mapM f <;> simp [bind, Except.bind, pure, Except.pure]
      refine hstep.trans (ih.trans ⟨?_, ?_⟩)
      · rintro ⟨before, c, after, rfl, hbefore, hc⟩
        exact ⟨a :: before, c, after, rfl, List.forall_mem_cons.2 ⟨⟨b, ha⟩, hbefore⟩, hc⟩
      · rintro ⟨_ | ⟨c, before⟩, d, after, hitems, hbefore, hd⟩
        · cases hitems
          cases ha.symm.trans hd
        · cases hitems
          exact ⟨before, d, after, rfl, (List.forall_mem_cons.1 hbefore).2, hd⟩

theorem mapM_congr {g : α → Except ε β} (h : ∀ a ∈ items, f a = g a) : items.mapM f = items.mapM g := by
  induction items with
  | nil => rfl
  | cons a rest ih =>
    rw [List.forall_mem_cons] at h
    rw [List.mapM_cons, List.mapM_cons, h.1, ih h.2]

theorem exists_mapM_eq_ok_iff : (∃ results, items.mapM f = .ok results) ↔ ∀ a ∈ items, ∃ b, f a = .ok b := by
  simp only [mapM_eq_ok_iff]
  constructor
  · rintro ⟨results, h⟩ a ha
    induction h with
    | nil => cases ha
    | cons hhead _ ih =>
      rcases List.mem_cons.1 ha with rfl | ha
      · exact ⟨_, hhead⟩
      · exact ih ha
  · intro h
    induction items with
    | nil => exact ⟨[], .nil⟩
    | cons a rest ih =>
      obtain ⟨⟨b, hb⟩, hrest⟩ := List.forall_mem_cons.1 h
      obtain ⟨results, hresults⟩ := ih hrest
      exact ⟨b :: results, .cons hb hresults⟩

end Traversal

namespace Schema

variable {schema : Schema} {missing : MissingData} {params : Params}

/-- Reads the entry of one field. -/
def readEntry (missing : MissingData) (params : Params) (field : Field) : Except DataError (String × Value) :=
  return (field.name, ← field.read missing params)

theorem readEntry_eq_ok_iff {field : Field} {entry : String × Value} :
    readEntry missing params field = .ok entry ↔ entry.1 = field.name ∧ field.Gives missing params entry.2 := by
  obtain ⟨name, held⟩ := entry
  rw [readEntry, ← Field.read_eq_ok_iff_gives]
  cases field.read missing params with
  | error failure => simp [bind, Except.bind]
  | ok found => simp [bind, Except.bind, pure, Except.pure, eq_comm]

theorem readEntry_eq_error_iff {field : Field} {failure : DataError} :
    readEntry missing params field = .error failure ↔ field.FailsWith missing params failure := by
  rw [readEntry, ← Field.read_eq_error_iff]
  cases field.read missing params with
  | error found => simp [bind, Except.bind]
  | ok found => simp [bind, Except.bind, pure, Except.pure]

theorem exists_readEntry_iff {field : Field} :
    (∃ entry, readEntry missing params field = .ok entry) ↔ field.Satisfied missing params := by
  simp only [readEntry_eq_ok_iff, Field.satisfied_iff_exists_gives]
  constructor
  · rintro ⟨entry, -, hgives⟩
    exact ⟨entry.2, hgives⟩
  · rintro ⟨held, hgives⟩
    exact ⟨(field.name, held), rfl, hgives⟩

theorem read_congr {others : Params} (h : ∀ field ∈ schema.fields, others.get? field.name = params.get? field.name) :
    schema.read missing others = schema.read missing params := by
  refine mapM_congr fun field hfield => ?_
  rw [Field.read.eq_def, Field.read.eq_def, h field hfield]

/-- A projection reads the fields of a fault, and takes a failure for a mistake if it is to be strict. -/
theorem project_eq {f : Fault} {flags : List Flag} {options : Flag.ProjectOptions} (hwell : ¬ schema.Malformed)
    (hoptions : Flag.projectOptions flags = .ok options) :
    f.project schema flags = (schema.read options.missing f.fields).mapError fun failure =>
      if options.strict then .usage ⟨.project, .failed failure⟩ else .data failure := by
  rw [Fault.project, hoptions, Attempt.checkSchema_eq_ok hwell]
  show (if options.strict then _ else _) = _
  cases options.strict <;> cases schema.read options.missing f.fields <;> rfl

/-- A record is read exactly if its schema is satisfied: every field has a value that it can be assigned, or none where
zeros stand in. It then holds what each field is assigned, or its zero. Otherwise the first field that is not satisfied
decides, by a mismatch if it has a value and as missing if it has none. No other values matter. An integer field holds
the number it is assigned, and an optional one holds none for nil alone. What is read from a fault is read from the data
of its chain. -/
theorem read_iff_satisfied (schema : Schema) (missing : MissingData) (params : Params) :
    ((∃ record, schema.read missing params = .ok record) ↔ ∀ field ∈ schema.fields, field.Satisfied missing params) ∧
    (∀ record, schema.read missing params = .ok record ↔
      List.Forall₂ (fun field entry => entry.1 = field.name ∧ field.Gives missing params entry.2) schema.fields record) ∧
    (∀ failure, schema.read missing params = .error failure ↔
      ∃ before field after, schema.fields = before ++ field :: after ∧
        (∀ earlier ∈ before, earlier.Satisfied missing params) ∧ field.FailsWith missing params failure) ∧
    (∀ others : Params, (∀ field ∈ schema.fields, others.get? field.name = params.get? field.name) →
      schema.read missing others = schema.read missing params) ∧
    (∀ type v held, FieldType.Assigns type v held → (∃ width, type = .signed width ∨ type = .unsigned width) →
      held.integer? = v.integer?) ∧
    (∀ inner v, (FieldType.optional inner).take? v = some (none : Option inner.Content) ↔ v = .nil) ∧
    ∀ (f : Fault) flags options, ¬ schema.Malformed → Flag.projectOptions flags = .ok options →
      f.project schema flags = (schema.read options.missing f.fields).mapError fun failure =>
        if options.strict then .usage ⟨.project, .failed failure⟩ else .data failure := by
  refine ⟨?_, fun record => ?_, fun failure => ?_, fun others => read_congr,
    fun _ _ _ => FieldType.integer?_of_assigns, fun _ _ => FieldType.take?_optional_eq_none_iff,
    fun _ _ _ => project_eq⟩
  · simp only [← exists_readEntry_iff]
    exact exists_mapM_eq_ok_iff
  · simp only [← readEntry_eq_ok_iff]
    exact mapM_eq_ok_iff
  · simp only [← exists_readEntry_iff, ← readEntry_eq_error_iff]
    exact mapM_eq_error_iff

/-- A fault with a number that needs more than eight bits. -/
def threeHundred : Fault := Fault.annotate 0 ⟨Template.ofFormat "late", .singleton "n" (.int 300), none⟩

/-- A zero stands in for a number that is missing, not for one that does not fit. -/
theorem read_iff_satisfied_overflow :
    let schema : Schema := ⟨[⟨"x", .single⟩, ⟨"n", .unsigned .bits8⟩], []⟩
    ¬ schema.Malformed ∧ Flag.projectOptions [.missingDataAsZero] = .ok ⟨.asZero, false⟩ ∧
      threeHundred.project schema [.missingDataAsZero] = .error (.data (.typeMismatch "n" .uint .int)) := by
  intro schema
  have hwell : ¬ schema.Malformed := Schema.fault?_eq_none_iff.1 rfl
  have hoptions : Flag.projectOptions [.missingDataAsZero] = .ok ⟨.asZero, false⟩ := rfl
  let field : Field := ⟨"n", .unsigned .bits8⟩
  have hunassigned : ∀ held, ¬ field.type.Assigns (.int 300) held := by
    intro held hassigned
    cases hassigned with
    | @unsigned _ _ n whole greatest =>
      have hn : (300 : ℤ) = n := Option.some.inj whole
      rw [IntegerWidth.bits] at greatest
      omega
  have hpresent : threeHundred.fields.get? field.name = some (.int 300) := rfl
  have hfails : field.FailsWith .asZero threeHundred.fields (.typeMismatch "n" .uint .int) :=
    .mismatch hpresent hunassigned
  have habsent : ∀ earlier ∈ [(⟨"x", .single⟩ : Field)], earlier.Satisfied .asZero threeHundred.fields := by
    intro earlier hearlier
    rw [List.mem_singleton.1 hearlier]
    exact .inr ⟨rfl, rfl⟩
  obtain ⟨-, -, herror, -, -, -, hproject⟩ := read_iff_satisfied schema .asZero threeHundred.fields
  refine ⟨hwell, hoptions, ?_⟩
  rw [hproject threeHundred _ _ hwell hoptions, (herror _).2 ⟨_, _, [], rfl, habsent, hfails⟩]
  rfl

end Schema

end Mishap
