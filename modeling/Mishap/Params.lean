import Mishap.Params.Entries
import Mishap.Value.Display

/-!
Parameter maps: the named data of a failure. Names ascend, a map is determined by what it holds under each name, and
the data of a cause is merged underneath new data in one of three ways.
-/

namespace Mishap

/-- Named values, in ascending order of their names. -/
structure Params where
  entries : List (String × Value)
  ascending : Entries.Ascending entries

namespace Params

@[ext] theorem ext_entries {a b : Params} (h : a.entries = b.entries) : a = b := by
  cases a; cases b; cases h; rfl

def empty : Params := ⟨[], Entries.ascending_nil⟩

instance : Inhabited Params := ⟨empty⟩

def isEmpty (params : Params) : Bool := params.entries.isEmpty

def size (params : Params) : Nat := params.entries.length

def get? (params : Params) (name : String) : Option Value := Entries.lookup name params.entries

def contains (params : Params) (name : String) : Bool := (params.get? name).isSome

/-- Adds an entry, in place of the one of that name if there is one. -/
def insert (params : Params) (name : String) (v : Value) : Params :=
  ⟨Entries.insert name v params.entries, params.ascending.insert name v⟩

def erase (params : Params) (name : String) : Params :=
  ⟨Entries.erase name params.entries, params.ascending.erase name⟩

/-- A later pair of a name replaces an earlier one. -/
def ofList (pairs : List (String × Value)) : Params :=
  ⟨Entries.ofList pairs, Entries.ascending_ofList pairs⟩

def singleton (name : String) (v : Value) : Params := empty.insert name v

def toValue (params : Params) : Value := .map params.entries

/-- Equality of the data: see `Value.same`. -/
def same (a b : Params) : Bool := Value.sameEntries a.entries b.entries

def display (params : Params) : String := params.toValue.display

def describe (params : Params) : String :=
  Value.describedMap (Value.describeEntries params.entries)

theorem get?_insert (params : Params) (name other : String) (v : Value) :
    (params.insert name v).get? other = if other = name then some v else params.get? other :=
  Entries.lookup_insert ..

theorem get?_erase (params : Params) (name other : String) :
    (params.erase name).get? other = if other = name then none else params.get? other :=
  Entries.lookup_erase ..

theorem get?_empty (name : String) : empty.get? name = none := rfl

theorem ext_get? {a b : Params} (h : ∀ name, a.get? name = b.get? name) : a = b :=
  ext_entries (a.ascending.eq_of_lookup_eq b.ascending h)

/-! ### Alternating lists -/

/-- Why a list does not alternate between names and values. -/
inductive FlatListError
  | oddLength (length : Nat)
  | nameNotText (found : Value)

def FlatListError.message : FlatListError → String
  | oddLength length =>
    "ParamMap::from_flat: expected key/value pairs, got an odd number of arguments (" ++
      naturalText length ++ ")"
  | nameNotText found =>
    "ParamMap::from_flat: parameter names must be strings, got " ++ found.kind.name ++ " '" ++
      found.display ++ "'"

def pairUp : List Value → Except FlatListError (List (String × Value))
  | name :: v :: rest =>
    match name with
    | .text name => (pairUp rest).map ((name, v) :: ·)
    | found => .error (.nameNotText found)
  | _ => .ok []

/-- The pairs of a list that alternates between names and values. -/
def pairsOfFlat (args : List Value) : Except FlatListError (List (String × Value)) :=
  if args.length % 2 = 1 then .error (.oddLength args.length) else pairUp args

def ofFlat (args : List Value) : Except FlatListError Params := (pairsOfFlat args).map ofList

/-! ### Merging -/

/-- How the data of a cause is merged underneath new data where both hold a name. -/
inductive MergePolicy
  | replace
  | keepPrevious
  | errorOnConflict
  deriving DecidableEq, Repr

/-- Two different values for one name. -/
structure Conflict where
  name : String
  existing : Value
  incoming : Value

/-- Adds one entry of the cause to the data gathered so far. -/
def mergeEntry (policy : MergePolicy) (params : Params) (entry : String × Value) :
    Except Conflict Params :=
  match params.get? entry.1, policy with
  | none, _ => .ok (params.insert entry.1 entry.2)
  | some _, .replace => .ok params
  | some _, .keepPrevious => .ok (params.insert entry.1 entry.2)
  | some v, .errorOnConflict =>
    if v.same entry.2 then .ok params else .error ⟨entry.1, entry.2, v⟩

/-- Merges the data of a cause underneath `params`, name by name in ascending order. -/
def merge (policy : MergePolicy) (params previous : Params) : Except Conflict Params :=
  previous.entries.foldlM (mergeEntry policy) params

end Params

end Mishap
