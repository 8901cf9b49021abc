import Mishap.Params
import Mishap.Params.Layout

/-!
Parameter maps in the course of time. A change makes a new edition of a map; a copy is of the same edition until it is
changed, and even then it shares with the map what neither change has touched. What is shared is not compared, and so
a NaN in it does not tell a map from its copy.
-/

namespace Mishap

mutual

/-- Whether a value is the same as itself, every map in it being so. -/
def Value.isSteady : Value → Bool
  | float x => x.same x
  | list items => steadyItems items
  | _ => true
termination_by structural v => v

def Value.steadyItems : List Value → Bool
  | [] => true
  | v :: rest => v.isSteady && steadyItems rest
termination_by structural items => items

end

namespace Params

/-- A map, the number of its edition and its layout. Every change that makes an edition has a number of its own. -/
structure Edition where
  params : Params
  number : Nat
  layout : Layout

namespace Edition

/-- A map before anything was put into it. -/
def initial : Edition := ⟨.empty, 0, .empty⟩

def insert (change : Nat) (name : String) (v : Value) (e : Edition) : Edition :=
  ⟨e.params.insert name v, change, e.layout.insert change name⟩

def erase (change : Nat) (name : String) (e : Edition) : Edition :=
  ⟨e.params.erase name, change, e.layout.erase change name⟩

/-- A new map that is filled by one change; a later pair of a name replaces an earlier one. -/
def ofList (change : Nat) (pairs : List (String × Value)) : Edition :=
  pairs.foldl (fun e pair => e.insert change pair.1 pair.2) { initial with number := change }

/-- Whether two maps have the same value under a name: on a page that they share they have, and of a value that they
share its maps are the same. -/
def sameUnder (a b : Edition) (name : String) (v w : Value) : Bool :=
  v.same w || a.layout.sharePage b.layout name || (a.layout.shareValue b.layout name && v.isSteady)

def sameEntries (a b : Edition) : List (String × Value) → List (String × Value) → Bool
  | [], [] => true
  | (m, v) :: as, (n, w) :: bs => m == n && sameUnder a b m v w && sameEntries a b as bs
  | _, _ => false

/-- Whether two maps are the same: of one edition, or with the same values under the same names. -/
def same (a b : Edition) : Bool := a.number == b.number || sameEntries a b a.params.entries b.params.entries

theorem same_self (a : Edition) : a.same a = true := by simp [same]

end Edition

end Params

end Mishap
