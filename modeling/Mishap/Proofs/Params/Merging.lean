import Mishap.Params

/-!
Merging as laying one map over another. Main statements: a merge gives the new data over that of the cause or, where
the previous data is kept, the data of the cause over the new one; and where conflicts are refused, a merge succeeds
if it has none.
-/

namespace Mishap.Params

open Entries (lookup)

/-- The first map over the second one: a name that both hold has its value from the first. -/
def atop (p q : Params) : Params := p.entries.foldl (fun params entry => params.insert entry.1 entry.2) q

/-- Whether the names that both maps hold have equal values. -/
def Compatible (p q : Params) : Prop :=
  ∀ name v w, p.get? name = some v → q.get? name = some w → v.same w

theorem get?_foldl_insert (q : Params) {entries : List (String × Value)} (h : Entries.Ascending entries)
    (name : String) :
    (entries.foldl (fun params entry => params.insert entry.1 entry.2) q).get? name =
      (lookup name entries).or (q.get? name) := by
  induction entries generalizing q with
  | nil => rfl
  | cons entry rest ih =>
    obtain ⟨n, v⟩ := entry
    rw [List.foldl_cons, ih (q.insert n v) (List.pairwise_cons.1 h).2, get?_insert]
    by_cases hname : name = n
    · -- names ascend, so that no later entry replaces this one
      subst hname
      simp [lookup, h.lookup_tail]
    · simp [lookup, hname, Ne.symm hname]

theorem get?_atop (p q : Params) (name : String) : (p.atop q).get? name = (p.get? name).or (q.get? name) :=
  get?_foldl_insert q p.ascending name

theorem atop_empty (p : Params) : p.atop empty = p :=
  ext_get? fun name => by rw [get?_atop, get?_empty, Option.or_none]

theorem empty_atop (p : Params) : empty.atop p = p := rfl

/-! ### The three policies -/

variable {policy : MergePolicy} {p q r : Params}

/-- Where previous data is not kept, one entry of the cause fills a gap. -/
theorem get?_of_mergeEntry (hpolicy : policy ≠ .keepPrevious) {n : String} {v : Value}
    (h : mergeEntry policy p (n, v) = .ok r) (name : String) :
    r.get? name = (p.get? name).or (lookup name [(n, v)]) := by
  have hgap (hn : p.get? n = none) :
      (p.insert n v).get? name = (p.get? name).or (lookup name [(n, v)]) := by
    rw [get?_insert]
    by_cases hname : name = n
    · subst hname
      simp [lookup, hn]
    · simp [lookup, hname, Ne.symm hname]
  have hheld {w : Value} (hn : p.get? n = some w) : p.get? name = (p.get? name).or (lookup name [(n, v)]) := by
    by_cases hname : name = n
    · subst hname
      simp [hn]
    · simp [lookup, Ne.symm hname]
  rw [mergeEntry.eq_def] at h
  cases hn : p.get? n with
  | none =>
    simp only [hn, Except.ok.injEq] at h
    rw [← h]
    exact hgap hn
  | some w =>
    cases policy with
    | keepPrevious => exact absurd rfl hpolicy
    | replace =>
      simp only [hn, Except.ok.injEq] at h
      rw [← h]
      exact hheld hn
    | errorOnConflict =>
      simp only [hn] at h
      split at h
      · rw [← Except.ok.inj h]
        exact hheld hn
      · cases h

theorem get?_of_foldlM (hpolicy : policy ≠ .keepPrevious) {entries : List (String × Value)}
    (h : entries.foldlM (mergeEntry policy) p = .ok r) (name : String) :
    r.get? name = (p.get? name).or (lookup name entries) := by
  induction entries generalizing p with
  | nil =>
    cases h
    simp [lookup]
  | cons entry rest ih =>
    obtain ⟨n, v⟩ := entry
    rw [List.foldlM_cons] at h
    cases hstep : mergeEntry policy p (n, v) with
    | error conflict =>
      rw [hstep] at h
      cases h
    | ok next =>
      rw [hstep] at h
      rw [ih h, get?_of_mergeEntry hpolicy hstep, Option.or_assoc]
      congr 1
      by_cases hname : n = name <;> simp [lookup, hname]

theorem eq_atop_of_merge (hpolicy : policy ≠ .keepPrevious) (h : merge policy p q = .ok r) : r = p.atop q :=
  ext_get? fun name => by rw [get?_atop, get?_of_foldlM hpolicy h]; rfl

theorem merge_keepPrevious (p q : Params) : merge .keepPrevious p q = .ok (q.atop p) := by
  rw [merge, atop]
  have hentry (params : Params) (entry : String × Value) :
      mergeEntry .keepPrevious params entry = .ok (params.insert entry.1 entry.2) := by
    rw [mergeEntry.eq_def]
    cases params.get? entry.1 <;> rfl
  generalize q.entries = entries
  induction entries generalizing p with
  | nil => rfl
  | cons entry rest ih =>
    rw [List.foldlM_cons, hentry, List.foldl_cons]
    exact ih (p.insert entry.1 entry.2)

/-- What one entry needs to pass where conflicts are refused. -/
theorem same_of_mergeEntry {n : String} {v w : Value} (h : mergeEntry .errorOnConflict p (n, w) = .ok r)
    (hv : p.get? n = some v) : v.same w := by
  simp only [mergeEntry.eq_def, hv] at h
  split at h
  · assumption
  · cases h

theorem same_of_foldlM {entries : List (String × Value)}
    (h : entries.foldlM (mergeEntry .errorOnConflict) p = .ok r) {name : String} {v w : Value}
    (hv : p.get? name = some v) (hw : lookup name entries = some w) : v.same w := by
  induction entries generalizing p with
  | nil => cases hw
  | cons entry rest ih =>
    obtain ⟨n, x⟩ := entry
    rw [List.foldlM_cons] at h
    cases hstep : mergeEntry .errorOnConflict p (n, x) with
    | error conflict =>
      rw [hstep] at h
      cases h
    | ok next =>
      rw [hstep] at h
      by_cases hname : n = name
      · subst hname
        simp only [lookup, if_pos, Option.some.injEq] at hw
        subst hw
        exact same_of_mergeEntry hstep hv
      · simp only [lookup, if_neg hname] at hw
        refine ih h ?_ hw
        rw [get?_of_mergeEntry (by decide) hstep, hv, Option.some_or]

theorem compatible_of_merge (h : merge .errorOnConflict p q = .ok r) : p.Compatible q :=
  fun _ _ _ hv hw => same_of_foldlM h hv hw

/-- A conflict is a name that the new data and that of the cause hold with different values, and it is one only where
conflicts are refused. -/
theorem conflict_of_foldlM {entries : List (String × Value)} (hascending : Entries.Ascending entries)
    {conflict : Conflict} (h : entries.foldlM (mergeEntry policy) p = .error conflict) :
    policy = .errorOnConflict ∧ p.get? conflict.name = some conflict.incoming ∧
      lookup conflict.name entries = some conflict.existing ∧
      conflict.incoming.same conflict.existing = false := by
  induction entries generalizing p with
  | nil => cases h
  | cons entry rest ih =>
    obtain ⟨n, w⟩ := entry
    have htail := hascending.lookup_tail
    rw [List.foldlM_cons] at h
    cases hstep : mergeEntry policy p (n, w) with
    | error found =>
      rw [hstep] at h
      cases h
      rw [mergeEntry.eq_def] at hstep
      cases hn : p.get? n with
      | none => simp [hn] at hstep
      | some v =>
        cases policy with
        | replace => simp [hn] at hstep
        | keepPrevious => simp [hn] at hstep
        | errorOnConflict =>
          simp only [hn] at hstep
          split at hstep
          · cases hstep
          · next hdiffer =>
            cases hstep
            exact ⟨rfl, hn, by simp [lookup], by simpa using hdiffer⟩
    | ok next =>
      rw [hstep] at h
      obtain ⟨hpolicy, hincoming, hexisting, hdiffer⟩ := ih (List.pairwise_cons.1 hascending).2 h
      have hname : n ≠ conflict.name := by
        rintro rfl
        rw [htail] at hexisting
        cases hexisting
      rw [get?_of_mergeEntry (by rw [hpolicy]; decide) hstep] at hincoming
      refine ⟨hpolicy, ?_, by simp [lookup, hname, hexisting], hdiffer⟩
      simpa [lookup, hname] using hincoming

theorem conflict_of_merge {conflict : Conflict} (h : merge policy p q = .error conflict) :
    policy = .errorOnConflict ∧ p.get? conflict.name = some conflict.incoming ∧
      q.get? conflict.name = some conflict.existing ∧ conflict.incoming.same conflict.existing = false :=
  conflict_of_foldlM q.ascending h

theorem merge_of_compatible (h : p.Compatible q) : merge .errorOnConflict p q = .ok (p.atop q) := by
  cases hmerge : merge .errorOnConflict p q with
  | ok r => rw [eq_atop_of_merge (by decide) hmerge]
  | error conflict =>
    obtain ⟨-, hincoming, hexisting, hdiffer⟩ := conflict_of_merge hmerge
    rw [h _ _ _ hincoming hexisting] at hdiffer
    cases hdiffer

theorem merge_replace (p q : Params) : merge .replace p q = .ok (p.atop q) := by
  cases hmerge : merge .replace p q with
  | ok r => rw [eq_atop_of_merge (by decide) hmerge]
  | error conflict => cases (conflict_of_merge hmerge).1

end Mishap.Params
