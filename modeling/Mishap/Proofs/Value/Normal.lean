import Mishap.Proofs.Json.Trees
import Mishap.Value.Json

/-!
Values that have been through JSON. Main statement: a value that is written and read is normalised, once and for all:
bytes become a list of integers, an unsigned integer that fits a signed one, and a number that is not finite becomes nil.
-/

namespace Mishap

/-! ### Entries in order -/

namespace Entries

variable {α : Type}

theorem insert_last {name : String} {a : α} {entries : List (String × α)} (h : ∀ entry ∈ entries, entry.1 < name) :
    insert name a entries = entries ++ [(name, a)] := by
  induction entries with
  | nil => rfl
  | cons head rest ih =>
    obtain ⟨n, b⟩ := head
    obtain ⟨hn, hrest⟩ := List.forall_mem_cons.1 h
    rw [insert, if_neg (String.lt_asymm hn), if_neg (String.ne_of_lt hn).symm, ih hrest]
    rfl

/-- Pairs that ascend are the entries already. -/
theorem ofList_of_ascending {entries : List (String × α)} (h : Ascending entries) : ofList entries = entries := by
  have hall (rest : List (String × α)) : ∀ front : List (String × α), Ascending (front ++ rest) →
      rest.foldl (fun entries pair => insert pair.1 pair.2 entries) front = front ++ rest := by
    induction rest with
    | nil => exact fun front _ => (List.append_nil front).symm
    | cons pair rest ih =>
      intro front hfront
      have hless : ∀ entry ∈ front, entry.1 < pair.1 := fun entry hentry =>
        (List.pairwise_append.1 hfront).2.2 entry hentry pair List.mem_cons_self
      have hnext : Ascending ((front ++ [pair]) ++ rest) := by rwa [List.append_assoc]
      rw [List.foldl_cons, insert_last hless, ih _ hnext, List.append_assoc]
      rfl
  exact hall entries [] h

/-- Whether names ascend only depends on the names. -/
theorem ascending_congr {β : Type} {as : List (String × α)} {bs : List (String × β)}
    (h : as.map Prod.fst = bs.map Prod.fst) : Ascending as ↔ Ascending bs := by
  rw [Ascending, Ascending, ← List.pairwise_map (f := Prod.fst) (R := (· < ·)), h, List.pairwise_map]

end Entries

/-! ### Reading shape by shape -/

/-- The shapes in the order in which they are tried. -/
def Kind.tried : List Kind := [.nil, .bool, .int, .uint, .float, .text, .list, .map, .bytes]

namespace Json

def byte? : Json → Option UInt8
  | integer n => if 0 ≤ n ∧ n < 0x100 then some (.ofNat n.toNat) else none
  | _ => none

/-- What one shape by itself makes of a tree. Several take whole numbers, and two of them arrays. -/
def readAs? : Kind → Json → Option Value
  | .nil, null => some .nil
  | .bool, bool b => some (.bool b)
  | .int, integer n => if -0x8000000000000000 ≤ n ∧ n < 0x8000000000000000 then some (.int (.ofInt n)) else none
  | .uint, integer n => if 0 ≤ n ∧ n < 0x10000000000000000 then some (.uint (.ofNat n.toNat)) else none
  | .float, integer n => some (.float (.ofRatio (n < 0) ⟨n.natAbs, 1⟩))
  | .float, float x => some (.float x)
  | .text, text s => some (.text s)
  | .list, array items => some (.list (toValues items))
  | .map, object members => some (.map (Entries.ofList (toEntries members)))
  | .bytes, array items => (items.mapM byte?).map .bytes
  | _, _ => none

/-- A tree is read by the first shape that takes it, whole numbers being those that 64 bits hold. -/
theorem findSome?_readAs? {j : Json} (h : ∀ n, j = integer n → -0x8000000000000000 ≤ n ∧ n < 0x10000000000000000) :
    Kind.tried.findSome? (readAs? · j) = some j.toValue := by
  cases j with
  | integer n =>
    obtain ⟨hlow, hhigh⟩ := h n rfl
    have hnil : readAs? .nil (integer n) = none := rfl
    have hbool : readAs? .bool (integer n) = none := rfl
    rw [Kind.tried, List.findSome?_cons, hnil, List.findSome?_cons, hbool, List.findSome?_cons, toValue, Value.ofInteger]
    by_cases hsigned : n < 0x8000000000000000
    · rw [readAs?, if_pos ⟨hlow, hsigned⟩, if_pos hsigned]
    · rw [readAs?, if_neg fun hboth => hsigned hboth.2, List.findSome?_cons, readAs?, if_pos (by omega), if_neg hsigned]
  | _ => rfl

end Json

namespace Value

@[elab_as_elim, induction_eliminator]
theorem induct {motive : Value → Prop} (nil : motive .nil) (bool : ∀ b, motive (.bool b)) (int : ∀ n, motive (.int n))
    (uint : ∀ n, motive (.uint n)) (float : ∀ x, motive (.float x)) (text : ∀ s, motive (.text s))
    (list : ∀ items, (∀ v ∈ items, motive v) → motive (.list items))
    (map : ∀ entries, (∀ entry ∈ entries, motive entry.2) → motive (.map entries))
    (bytes : ∀ content, motive (.bytes content)) (v : Value) : motive v :=
  @Value.rec motive (fun items => ∀ v ∈ items, motive v) (fun entries => ∀ entry ∈ entries, motive entry.2)
    (fun entry => motive entry.2) nil bool int uint float text list map bytes nofun
    (fun _ _ hhead hrest => List.forall_mem_cons.2 ⟨hhead, hrest⟩) nofun
    (fun _ _ hhead hrest => List.forall_mem_cons.2 ⟨hhead, hrest⟩) (fun _ _ h => h) v

/-! ### Normal values -/

def ofByte (b : UInt8) : Value := .int (.ofNat b.toNat)

mutual

/-- The value that JSON keeps of a value. -/
def norm : Value → Value
  | uint n => if n.toNat < 0x8000000000000000 then .int (.ofNat n.toNat) else .uint n
  | float (.finite negative exponent fraction) => .float (.finite negative exponent fraction)
  | float _ => .nil
  | list items => .list (normItems items)
  | map entries => .map (normEntries entries)
  | bytes content => .list (content.map ofByte)
  | v => v
termination_by structural v => v

def normItems : List Value → List Value
  | [] => []
  | v :: rest => v.norm :: normItems rest
termination_by structural items => items

def normEntries : List (String × Value) → List (String × Value)
  | [] => []
  | (name, v) :: rest => (name, v.norm) :: normEntries rest
termination_by structural entries => entries

end

mutual

/-- The value and all values inside of it. -/
def parts : Value → List Value
  | list items => .list items :: itemsParts items
  | map entries => .map entries :: entriesParts entries
  | v => [v]
termination_by structural v => v

def itemsParts : List Value → List Value
  | [] => []
  | v :: rest => v.parts ++ itemsParts rest
termination_by structural items => items

def entriesParts : List (String × Value) → List Value
  | [] => []
  | (_, v) :: rest => v.parts ++ entriesParts rest
termination_by structural entries => entries

end

mutual

/-- How many lists and maps are nested in each other; bytes count as a list. -/
def depth : Value → Nat
  | list items => itemsDepth items + 1
  | map entries => entriesDepth entries + 1
  | bytes _ => 1
  | _ => 0
termination_by structural v => v

def itemsDepth : List Value → Nat
  | [] => 0
  | v :: rest => max v.depth (itemsDepth rest)
termination_by structural items => items

def entriesDepth : List (String × Value) → Nat
  | [] => 0
  | (_, v) :: rest => max v.depth (entriesDepth rest)
termination_by structural entries => entries

end

/-- The names ascend in every map, as they do in all that are built. -/
def Ordered (v : Value) : Prop := ∀ entries, map entries ∈ v.parts → Entries.Ascending entries

/-- Every finite number is read back from its JSON text. Most are, but reading rounds twice. -/
def Rereads (v : Value) : Prop :=
  ∀ negative exponent fraction, let x : Binary64 := .finite negative exponent fraction
    float x ∈ v.parts → Json.readNumber? (Json.floatText x).toList = some (.float x)

variable {v : Value} {items : List Value} {entries : List (String × Value)}

theorem mem_itemsParts {w : Value} : w ∈ itemsParts items ↔ ∃ v ∈ items, w ∈ v.parts := by
  induction items with
  | nil => simp [itemsParts]
  | cons v rest ih => simp [itemsParts, ih]

theorem mem_entriesParts {w : Value} : w ∈ entriesParts entries ↔ ∃ entry ∈ entries, w ∈ entry.2.parts := by
  induction entries with
  | nil => simp [entriesParts]
  | cons entry rest ih =>
    obtain ⟨name, v⟩ := entry
    simp [entriesParts, ih]

theorem ordered_list_iff : (list items).Ordered ↔ ∀ v ∈ items, v.Ordered := by
  simp only [Ordered, parts, List.mem_cons, reduceCtorEq, false_or, mem_itemsParts]
  constructor
  · exact fun h v hv entries hmem => h entries (Exists.intro v (And.intro hv hmem))
  · rintro h entries ⟨v, hv, hmem⟩
    exact h v hv entries hmem

theorem ordered_map_iff : (map entries).Ordered ↔ Entries.Ascending entries ∧ ∀ entry ∈ entries, entry.2.Ordered := by
  simp only [Ordered, parts, List.mem_cons, map.injEq, mem_entriesParts]
  constructor
  · exact fun h => ⟨h entries (.inl rfl), fun entry hentry inner hmem => h inner (.inr ⟨entry, hentry, hmem⟩)⟩
  · rintro ⟨hascending, hentries⟩ inner (rfl | ⟨entry, hentry, hmem⟩)
    · exact hascending
    · exact hentries entry hentry inner hmem

theorem rereads_list_iff : (list items).Rereads ↔ ∀ v ∈ items, v.Rereads := by
  simp only [Rereads, parts, List.mem_cons, reduceCtorEq, false_or, mem_itemsParts]
  constructor
  · exact fun h v hv negative exponent fraction hmem => h negative exponent fraction ⟨v, hv, hmem⟩
  · rintro h negative exponent fraction ⟨v, hv, hmem⟩
    exact h v hv negative exponent fraction hmem

theorem rereads_map_iff : (map entries).Rereads ↔ ∀ entry ∈ entries, entry.2.Rereads := by
  simp only [Rereads, parts, List.mem_cons, reduceCtorEq, false_or, mem_entriesParts]
  constructor
  · exact fun h entry hentry negative exponent fraction hmem => h negative exponent fraction ⟨entry, hentry, hmem⟩
  · rintro h negative exponent fraction ⟨entry, hentry, hmem⟩
    exact h entry hentry negative exponent fraction hmem

/-! ### Lists and maps item by item -/

theorem toJsonItems_eq_map (items : List Value) : toJsonItems items = items.map toJson := by
  induction items with
  | nil => rfl
  | cons v rest ih => rw [toJsonItems, ih, List.map_cons]

theorem toJsonEntries_eq_map (entries : List (String × Value)) :
    toJsonEntries entries = entries.map fun entry => (entry.1, entry.2.toJson) := by
  induction entries with
  | nil => rfl
  | cons entry rest ih => rw [toJsonEntries, ih, List.map_cons]

theorem toValues_eq_map (items : List Json) : Json.toValues items = items.map Json.toValue := by
  induction items with
  | nil => rfl
  | cons j rest ih => rw [Json.toValues, ih, List.map_cons]

theorem toEntries_eq_map (members : List (String × Json)) :
    Json.toEntries members = members.map fun member => (member.1, member.2.toValue) := by
  induction members with
  | nil => rfl
  | cons member rest ih => rw [Json.toEntries, ih, List.map_cons]

theorem normItems_eq_map (items : List Value) : normItems items = items.map norm := by
  induction items with
  | nil => rfl
  | cons v rest ih => rw [normItems, ih, List.map_cons]

theorem normEntries_eq_map (entries : List (String × Value)) :
    normEntries entries = entries.map fun entry => (entry.1, entry.2.norm) := by
  induction entries with
  | nil => rfl
  | cons entry rest ih => rw [normEntries, ih, List.map_cons]

theorem itemsDepth_eq_foldr (items : List Value) : itemsDepth items = (items.map depth).foldr max 0 := by
  induction items with
  | nil => rfl
  | cons v rest ih => rw [itemsDepth, ih, List.map_cons, List.foldr_cons]

theorem entriesDepth_eq_foldr (entries : List (String × Value)) :
    entriesDepth entries = (entries.map fun entry => entry.2.depth).foldr max 0 := by
  induction entries with
  | nil => rfl
  | cons entry rest ih => rw [entriesDepth, ih, List.map_cons, List.foldr_cons]

/-- Bytes are as deep as an empty list. -/
theorem foldr_depth_bytes (content : List UInt8) : (content.map fun _ => 0).foldr max 0 = 0 := by
  induction content with
  | nil => rfl
  | cons b rest ih => rw [List.map_cons, List.foldr_cons, ih, Nat.max_self]

/-! ### Writing -/

theorem depth_toJson (v : Value) : v.toJson.depth = v.depth := by
  induction v with
  | float x =>
    rw [toJson]
    split <;> rfl
  | list items ih =>
    have hitems : items.map (Json.depth ∘ toJson) = items.map depth := List.map_congr_left ih
    rw [toJson, Json.depth, depth, toJsonItems_eq_map, Json.itemsDepth_eq_foldr, List.map_map, hitems,
      itemsDepth_eq_foldr]
  | map entries ih =>
    have hentries : entries.map (fun entry => entry.2.toJson.depth) = entries.map (fun entry => entry.2.depth) :=
      List.map_congr_left ih
    rw [toJson, Json.depth, depth, toJsonEntries_eq_map, Json.membersDepth_eq_foldr, List.map_map,
      entriesDepth_eq_foldr, ← hentries]
    rfl
  | bytes content =>
    rw [toJson, Json.depth, depth, Json.itemsDepth_eq_foldr, List.map_map]
    exact congrArg (· + 1) (foldr_depth_bytes content)
  | _ => rfl

theorem faithful_toJson (h : v.Rereads) : Json.Faithful v.toJson := by
  induction v with
  | nil => exact .null
  | bool b => exact .bool b
  | int n =>
    have hlow := n.le_toInt
    have hhigh := n.toInt_lt
    exact .integer (Json.readNumber?_integerText (by omega) (by omega))
  | uint n =>
    have hhigh := n.toNat_lt
    exact .integer (Json.readNumber?_integerText (by omega) (by omega))
  | float x =>
    cases x with
    | nan => exact .null
    | infinity negative => exact .null
    | finite negative exponent fraction => exact .float (h negative exponent fraction List.mem_cons_self)
  | text s => exact .text s
  | list items ih =>
    rw [rereads_list_iff] at h
    rw [toJson, toJsonItems_eq_map]
    exact .array (List.forall_mem_map.2 fun v hv => ih v hv (h v hv))
  | map entries ih =>
    rw [rereads_map_iff] at h
    rw [toJson, toJsonEntries_eq_map]
    exact .object (List.forall_mem_map.2 fun entry hentry => ih entry hentry (h entry hentry))
  | bytes content =>
    refine .array (List.forall_mem_map.2 fun b _ => ?_)
    have hless := b.toNat_lt
    exact .integer (Json.readNumber?_integerText (by omega) (by omega))

/-! ### Reading -/

theorem ofInteger_toInt (n : Int64) : ofInteger n.toInt = .int n := by
  have hless : n.toInt < 0x8000000000000000 := n.toInt_lt
  rw [ofInteger, if_pos hless, Int64.ofInt_toInt]

theorem ofInteger_natCast (n : Nat) :
    ofInteger n = if n < 0x8000000000000000 then .int (.ofNat n) else .uint (.ofNat n) := by
  rw [ofInteger, Int64.ofInt_eq_ofNat, Int.toNat_natCast]
  by_cases hless : n < 0x8000000000000000
  · rw [if_pos hless, if_pos (by omega)]
  · rw [if_neg hless, if_neg (by omega)]

theorem toValue_jsonOfByte (b : UInt8) : (jsonOfByte b).toValue = ofByte b := by
  have hless := b.toNat_lt
  rw [jsonOfByte, Json.toValue, ofInteger_natCast, if_pos (by omega), ofByte]

theorem ascending_normEntries_iff : Entries.Ascending (normEntries entries) ↔ Entries.Ascending entries := by
  rw [normEntries_eq_map]
  exact Entries.ascending_congr (by rw [List.map_map]; rfl)

/-- What is written of a value is read as the normal value. -/
theorem toValue_toJson (h : v.Ordered) : v.toJson.toValue = v.norm := by
  induction v with
  | int n => exact ofInteger_toInt n
  | uint n => rw [toJson, Json.toValue, ofInteger_natCast, norm, UInt64.ofNat_toNat]
  | float x => cases x <;> rfl
  | list items ih =>
    rw [ordered_list_iff] at h
    rw [toJson, Json.toValue, norm, toJsonItems_eq_map, toValues_eq_map, normItems_eq_map, List.map_map]
    exact congrArg _ (List.map_congr_left fun v hv => ih v hv (h v hv))
  | map entries ih =>
    obtain ⟨hascending, hordered⟩ := ordered_map_iff.1 h
    have hentries : Json.toEntries (toJsonEntries entries) = normEntries entries := by
      rw [toJsonEntries_eq_map, toEntries_eq_map, normEntries_eq_map, List.map_map]
      exact List.map_congr_left fun entry hentry => congrArg (entry.1, ·) (ih entry hentry (hordered entry hentry))
    rw [toJson, Json.toValue, norm, hentries, Entries.ofList_of_ascending (ascending_normEntries_iff.2 hascending)]
  | bytes content =>
    have hbyte : Json.toValue ∘ jsonOfByte = ofByte := by
      funext b
      rw [Function.comp_apply, toValue_jsonOfByte]
    rw [toJson, Json.toValue, norm, toValues_eq_map, List.map_map, hbyte]
  | _ => rfl

/-! ### Normal values -/

/-- What is normal is not normalised any further. -/
theorem norm_norm (v : Value) : v.norm.norm = v.norm := by
  induction v with
  | uint n =>
    rw [norm]
    split
    · rfl
    · next hgreat => rw [norm, if_neg hgreat]
  | float x => cases x <;> rfl
  | list items ih =>
    rw [norm, norm, normItems_eq_map, normItems_eq_map, List.map_map]
    exact congrArg _ (List.map_congr_left ih)
  | map entries ih =>
    rw [norm, norm, normEntries_eq_map, normEntries_eq_map, List.map_map]
    exact congrArg _ (List.map_congr_left fun entry hentry => congrArg (entry.1, ·) (ih entry hentry))
  | bytes content =>
    rw [norm, norm, normItems_eq_map, List.map_map]
    exact congrArg _ (List.map_congr_left fun _ _ => rfl)
  | _ => rfl

theorem depth_norm (v : Value) : v.norm.depth = v.depth := by
  induction v with
  | uint n =>
    rw [norm]
    split <;> rfl
  | float x => cases x <;> rfl
  | list items ih =>
    have hitems : items.map (depth ∘ norm) = items.map depth := List.map_congr_left ih
    rw [norm, depth, depth, normItems_eq_map, itemsDepth_eq_foldr, List.map_map, hitems, itemsDepth_eq_foldr]
  | map entries ih =>
    have hentries : entries.map (fun entry => entry.2.norm.depth) = entries.map (fun entry => entry.2.depth) :=
      List.map_congr_left ih
    rw [norm, depth, depth, normEntries_eq_map, entriesDepth_eq_foldr, entriesDepth_eq_foldr, List.map_map, ← hentries]
    rfl
  | bytes content =>
    rw [norm, depth, depth, itemsDepth_eq_foldr, List.map_map]
    exact congrArg (· + 1) (foldr_depth_bytes content)
  | _ => rfl

theorem self_mem_parts (v : Value) : v ∈ v.parts := by
  cases v <;> exact List.mem_cons_self

theorem exists_norm_eq {w : Value} (hleaf : v.norm.parts = [v.norm]) (h : w ∈ v.norm.parts) :
    ∃ u ∈ v.parts, u.norm = w := by
  rw [hleaf, List.mem_singleton] at h
  exact ⟨v, self_mem_parts v, h.symm⟩

/-- What is inside of a normal value is normal, or a byte. -/
theorem mem_parts_norm {w : Value} (h : w ∈ v.norm.parts) : (∃ u ∈ v.parts, u.norm = w) ∨ ∃ b, ofByte b = w := by
  induction v with
  | uint n =>
    refine .inl (exists_norm_eq ?_ h)
    rw [norm]
    split <;> rfl
  | float x => exact .inl (exists_norm_eq (by cases x <;> rfl) h)
  | list items ih =>
    rw [norm, parts, List.mem_cons, ← norm, mem_itemsParts, normItems_eq_map] at h
    rcases h with rfl | ⟨u, hu, hw⟩
    · exact .inl ⟨_, self_mem_parts _, rfl⟩
    · obtain ⟨v, hv, rfl⟩ := List.mem_map.1 hu
      obtain ⟨u, hmem, hnorm⟩ | hbyte := ih v hv hw
      · exact .inl ⟨u, List.mem_cons_of_mem _ (mem_itemsParts.2 ⟨v, hv, hmem⟩), hnorm⟩
      · exact .inr hbyte
  | map entries ih =>
    rw [norm, parts, List.mem_cons, ← norm, mem_entriesParts, normEntries_eq_map] at h
    rcases h with rfl | ⟨normal, hnormal, hw⟩
    · exact .inl ⟨_, self_mem_parts _, rfl⟩
    · obtain ⟨entry, hentry, rfl⟩ := List.mem_map.1 hnormal
      obtain ⟨u, hmem, hnorm⟩ | hbyte := ih entry hentry hw
      · exact .inl ⟨u, List.mem_cons_of_mem _ (mem_entriesParts.2 ⟨entry, hentry, hmem⟩), hnorm⟩
      · exact .inr hbyte
  | bytes content =>
    rw [norm, parts, List.mem_cons, ← norm, mem_itemsParts] at h
    rcases h with rfl | ⟨u, hu, hw⟩
    · exact .inl ⟨_, self_mem_parts _, rfl⟩
    · obtain ⟨b, -, rfl⟩ := List.mem_map.1 hu
      exact .inr ⟨b, (List.mem_singleton.1 hw).symm⟩
  | _ => exact .inl (exists_norm_eq rfl h)

theorem norm_eq_map {u : Value} (h : u.norm = map entries) : ∃ inner, u = map inner ∧ normEntries inner = entries := by
  cases u with
  | uint n =>
    rw [norm] at h
    split at h <;> cases h
  | float x => cases x <;> cases h
  | map inner =>
    rw [norm, map.injEq] at h
    exact ⟨inner, rfl, h⟩
  | _ => cases h

theorem norm_eq_float {u : Value} {x : Binary64} (h : u.norm = float x) : u = float x := by
  cases u with
  | uint n =>
    rw [norm] at h
    split at h <;> cases h
  | float y =>
    cases y with
    | finite negative exponent fraction => exact h
    | _ => cases h
  | _ => cases h

theorem Ordered.norm (h : v.Ordered) : v.norm.Ordered := by
  intro entries hmem
  rcases mem_parts_norm hmem with ⟨u, hu, hnorm⟩ | ⟨b, hbyte⟩
  · obtain ⟨inner, rfl, rfl⟩ := norm_eq_map hnorm
    exact ascending_normEntries_iff.2 (h inner hu)
  · cases hbyte

theorem Rereads.norm (h : v.Rereads) : v.norm.Rereads := by
  intro negative exponent fraction x hmem
  rcases mem_parts_norm hmem with ⟨u, hu, hnorm⟩ | ⟨b, hbyte⟩
  · rw [norm_eq_float hnorm] at hu
    exact h negative exponent fraction hu
  · cases hbyte

/-! ### Through JSON -/

/-- The value that is read of what is written. -/
def throughJson? (v : Value) : Option Value := ofJsonText? v.jsonText

theorem ofText?_jsonText (hdepth : v.depth < 128) (hrereads : v.Rereads) : Json.ofText? v.jsonText = some v.toJson := by
  refine Json.ofText?_render (faithful_toJson hrereads) ?_
  rw [depth_toJson]
  exact Nat.lt_succ_iff.1 hdepth

theorem throughJson?_eq (hordered : v.Ordered) (hdepth : v.depth < 128) (hrereads : v.Rereads) :
    v.throughJson? = some v.norm := by
  rw [throughJson?, ofJsonText?, ofText?_jsonText hdepth hrereads, Option.map_some, toValue_toJson hordered]

end Value

namespace Params

def norm (params : Params) : Params :=
  ⟨Value.normEntries params.entries, Value.ascending_normEntries_iff.2 params.ascending⟩

def throughJson? (params : Params) : Option Params := ofJsonText? params.jsonText

variable {params : Params}

/-- A map is normalised entry by entry. -/
theorem get?_norm (params : Params) (name : String) : params.norm.get? name = (params.get? name).map Value.norm := by
  have hlookup (entries : List (String × Value)) :
      Entries.lookup name (Value.normEntries entries) = (Entries.lookup name entries).map Value.norm := by
    induction entries with
    | nil => rfl
    | cons entry rest ih =>
      obtain ⟨n, v⟩ := entry
      rw [Value.normEntries, Entries.lookup, Entries.lookup]
      split
      · rfl
      · exact ih
  exact hlookup params.entries

theorem norm_norm (params : Params) : params.norm.norm = params.norm := by
  apply ext_get?
  intro name
  rw [get?_norm, get?_norm, Option.map_map]
  congr 1
  funext v
  exact v.norm_norm

theorem throughJson?_eq (hordered : params.toValue.Ordered) (hdepth : params.toValue.depth < 128)
    (hrereads : params.toValue.Rereads) : params.throughJson? = some params.norm := by
  have hentries : Entries.ofList (Json.toEntries (Value.toJsonEntries params.entries)) = Value.normEntries params.entries :=
    Value.map.inj (Value.toValue_toJson hordered)
  rw [throughJson?, ofJsonText?, jsonText, Value.ofText?_jsonText hdepth hrereads, Option.bind_some]
  exact congrArg some (ext_entries hentries)

end Params

/-! ### Any number of times -/

/-- What is left after so many trips. -/
def trips? {α : Type} (trip : α → Option α) : Nat → α → Option α
  | 0, a => some a
  | n + 1, a => (trip a).bind (trips? trip n)

/-- After the first trip nothing changes any more. -/
theorem trips?_eq {α : Type} {trip : α → Option α} {a b : α} (h : trip a = some b) (hb : trip b = some b) {n : Nat}
    (hn : 0 < n) : trips? trip n a = some b := by
  have hstay : ∀ n, trips? trip n b = some b := by
    intro n
    induction n with
    | zero => rfl
    | succ n ih => rw [trips?, hb, Option.bind_some, ih]
  cases n with
  | zero => exact absurd hn (Nat.lt_irrefl 0)
  | succ n => rw [trips?, h, Option.bind_some, hstay]

/-- What JSON makes of values, and of parameter maps entry by entry, it makes once and for all: after any number of trips
they are normal, and those that were normal are as they were. This is so for values of fewer than 128 levels, every
finite number of which is read back from its text. -/
theorem json_normalizes :
    (∀ v : Value, v.norm.norm = v.norm) ∧
    (∀ v : Value, v.Ordered → v.depth < 128 → v.Rereads →
      v.throughJson? = some v.norm ∧ (∀ n, 0 < n → trips? Value.throughJson? n v = some v.norm) ∧
        (v.throughJson? = some v ↔ v = v.norm)) ∧
    ∀ params : Params, params.toValue.Ordered → params.toValue.depth < 128 → params.toValue.Rereads →
      params.throughJson? = some params.norm ∧
        (∀ name, params.norm.get? name = (params.get? name).map Value.norm) ∧
        (∀ n, 0 < n → trips? Params.throughJson? n params = some params.norm) ∧
        (params.throughJson? = some params ↔ ∀ name v, params.get? name = some v → v = v.norm) := by
  refine ⟨Value.norm_norm, fun v hordered hdepth hrereads => ?_, fun params hordered hdepth hrereads => ?_⟩
  · have hfirst := Value.throughJson?_eq hordered hdepth hrereads
    have hsecond := Value.throughJson?_eq hordered.norm (v.depth_norm ▸ hdepth) hrereads.norm
    rw [Value.norm_norm] at hsecond
    refine ⟨hfirst, fun n hn => trips?_eq hfirst hsecond hn, ?_⟩
    rw [hfirst, Option.some.injEq]
    exact eq_comm
  · have hfirst := Params.throughJson?_eq hordered hdepth hrereads
    have hsecond : params.norm.throughJson? = some params.norm.norm :=
      Params.throughJson?_eq hordered.norm (params.toValue.depth_norm.symm ▸ hdepth) hrereads.norm
    rw [Params.norm_norm] at hsecond
    refine ⟨hfirst, params.get?_norm, fun n hn => trips?_eq hfirst hsecond hn, ?_⟩
    rw [hfirst, Option.some.injEq]
    constructor
    · intro hsame name v hv
      have hget := params.get?_norm name
      rw [hsame, hv] at hget
      exact Option.some.inj hget
    · intro hall
      apply Params.ext_get?
      intro name
      rw [params.get?_norm name]
      cases hget : params.get? name with
      | none => rfl
      | some v => exact congrArg some (hall name v hget).symm

/-- Values that are kept and values that are not, at the bounds between integers and on several levels. -/
def mixtureEntries : List (String × Value) :=
  [("a", .bytes [0, 255]), ("b", .uint 0x7fffffffffffffff), ("c", .uint 0x8000000000000000), ("d", .float .nan),
    ("e", .list [.float (.finite false ⟨1024, by decide⟩ ⟨0x4000000000000, by decide⟩), .bytes []]),
    ("f", .map [("x", .nil), ("y", .text "\n")])]

theorem ascending_mixtureEntries : Entries.Ascending mixtureEntries := by
  rw [Entries.Ascending]
  decide

def mixture : Params := ⟨mixtureEntries, ascending_mixtureEntries⟩

theorem json_normalizes_mixture :
    mixture.toValue.Ordered ∧ mixture.toValue.depth < 128 ∧ mixture.toValue.Rereads ∧
      trips? Value.throughJson? 2 mixture.toValue = some mixture.norm.toValue ∧
      mixture.throughJson? = some mixture.norm ∧ mixture.norm.entries =
        [("a", .list [.int 0, .int 255]), ("b", .int 0x7fffffffffffffff), ("c", .uint 0x8000000000000000), ("d", .nil),
          ("e", .list [.float (.finite false ⟨1024, by decide⟩ ⟨0x4000000000000, by decide⟩), .list []]),
          ("f", .map [("x", .nil), ("y", .text "\n")])] := by
  have hordered : mixture.toValue.Ordered := by
    intro entries hmem
    have hmaps : entries = mixture.entries ∨ entries = [("x", .nil), ("y", .text "\n")] := by
      simpa [mixture, mixtureEntries, Params.toValue, Value.parts, Value.entriesParts, Value.itemsParts] using hmem
    rcases hmaps with rfl | rfl
    · exact mixture.ascending
    · rw [Entries.Ascending]
      decide
  have hdepth : mixture.toValue.depth < 128 := by decide
  have hrereads : mixture.toValue.Rereads := by
    intro negative exponent fraction x hmem
    have hx : x = .finite false ⟨1024, by decide⟩ ⟨0x4000000000000, by decide⟩ := by
      simpa [mixture, mixtureEntries, Params.toValue, Value.parts, Value.entriesParts, Value.itemsParts] using hmem
    have hscale : Json.scale? (.ofRatio false ⟨25, 1⟩) (-1) =
        some (.finite false ⟨1024, by decide⟩ ⟨0x4000000000000, by decide⟩) := by
      rw [Json.scale?]
      decide
    have hread : Json.readNumber? "2.5".toList = Json.Gathered.toFloat? false ⟨25, -1⟩ := by rfl
    have htext : Json.floatText (.finite false ⟨1024, by decide⟩ ⟨0x4000000000000, by decide⟩) = "2.5" := by rfl
    rw [hx, htext, hread, Json.Gathered.toFloat?, hscale]
    rfl
  have hvalue := json_normalizes.2.1 mixture.toValue hordered hdepth hrereads
  have hparams := json_normalizes.2.2 mixture hordered hdepth hrereads
  exact ⟨hordered, hdepth, hrereads, hvalue.2.1 2 (by decide), hparams.1, rfl⟩

end Mishap
