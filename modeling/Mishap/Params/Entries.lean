/-!
Entries in ascending order of their names: looking one up, putting one in its place and taking one out. The order of
names is that of their code points, which is also the order of their UTF-8 bytes.
-/

namespace Mishap.Entries

variable {α : Type}

/-- Names ascend strictly, so every name occurs once. -/
def Ascending (entries : List (String × α)) : Prop :=
  entries.Pairwise fun a b => a.1 < b.1

def lookup (name : String) : List (String × α) → Option α
  | [] => none
  | (n, a) :: rest => if n = name then some a else lookup name rest

/-- Replaces the entry of that name, or adds it in its place. -/
def insert (name : String) (a : α) : List (String × α) → List (String × α)
  | [] => [(name, a)]
  | (n, b) :: rest =>
    if name < n then (name, a) :: (n, b) :: rest
    else if name = n then (name, a) :: rest
    else (n, b) :: insert name a rest

def erase (name : String) (entries : List (String × α)) : List (String × α) :=
  entries.filter fun entry => entry.1 != name

/-- A later entry of a name replaces an earlier one. -/
def ofList (pairs : List (String × α)) : List (String × α) :=
  pairs.foldl (fun entries pair => insert pair.1 pair.2 entries) []

theorem lt_of_not_lt_of_ne {m n : String} (h : ¬ m < n) (hne : m ≠ n) : n < m :=
  String.not_le.1 fun hle => hne (String.le_antisymm hle (fun hlt => h hlt))

theorem mem_insert {name : String} {a : α} {entries : List (String × α)} {entry : String × α}
    (h : entry ∈ insert name a entries) : entry = (name, a) ∨ entry ∈ entries := by
  induction entries with
  | nil => exact Or.inl (by simpa [insert] using h)
  | cons head rest ih =>
    obtain ⟨n, b⟩ := head
    unfold insert at h
    split at h
    · simpa using h
    · split at h
      · rcases List.mem_cons.1 h with rfl | h
        · exact Or.inl rfl
        · exact Or.inr (List.mem_cons_of_mem _ h)
      · rcases List.mem_cons.1 h with rfl | h
        · exact Or.inr (by simp)
        · exact (ih h).imp_right (List.mem_cons_of_mem _)

theorem Ascending.insert {entries : List (String × α)} (h : Ascending entries) (name : String) (a : α) :
    Ascending (insert name a entries) := by
  induction entries with
  | nil => simp [Entries.insert, Ascending]
  | cons head rest ih =>
    obtain ⟨n, b⟩ := head
    obtain ⟨hn, hrest⟩ := List.pairwise_cons.1 h
    unfold Entries.insert
    split
    · next hlt =>
      refine List.pairwise_cons.2 ⟨?_, h⟩
      intro entry hentry
      rcases List.mem_cons.1 hentry with rfl | hentry
      · exact hlt
      · exact String.lt_trans hlt (hn entry hentry)
    · next hnlt =>
      split
      · next heq => exact List.pairwise_cons.2 ⟨fun entry he => heq ▸ hn entry he, hrest⟩
      · next hne =>
        refine List.pairwise_cons.2 ⟨?_, ih hrest⟩
        intro entry hentry
        rcases mem_insert hentry with rfl | hentry
        · exact lt_of_not_lt_of_ne hnlt hne
        · exact hn entry hentry

theorem Ascending.erase {entries : List (String × α)} (h : Ascending entries) (name : String) :
    Ascending (erase name entries) := List.Pairwise.filter _ h

theorem ascending_nil : Ascending ([] : List (String × α)) := List.Pairwise.nil

theorem ascending_foldl_insert (pairs : List (String × α)) {entries : List (String × α)}
    (h : Ascending entries) :
    Ascending (pairs.foldl (fun entries pair => insert pair.1 pair.2 entries) entries) := by
  induction pairs generalizing entries with
  | nil => exact h
  | cons pair rest ih => exact ih (h.insert pair.1 pair.2)

theorem ascending_ofList (pairs : List (String × α)) : Ascending (ofList pairs) :=
  ascending_foldl_insert pairs ascending_nil

theorem lookup_insert (name other : String) (a : α) (entries : List (String × α)) :
    lookup other (insert name a entries) = if other = name then some a else lookup other entries := by
  induction entries with
  | nil =>
    by_cases h : name = other
    · simp [insert, lookup, h]
    · simp [insert, lookup, h, Ne.symm h]
  | cons head rest ih =>
    obtain ⟨n, b⟩ := head
    unfold insert
    split
    · by_cases h : name = other
      · simp [lookup, h]
      · simp [lookup, h, Ne.symm h]
    · split
      · next heq =>
        subst heq
        by_cases h : name = other
        · simp [lookup, h]
        · simp [lookup, h, Ne.symm h]
      · next hne =>
        by_cases h : n = other
        · subst h
          simp [lookup, Ne.symm hne]
        · simp [lookup, h, ih]

theorem lookup_erase (name other : String) (entries : List (String × α)) :
    lookup other (erase name entries) = if other = name then none else lookup other entries := by
  induction entries with
  | nil => simp [erase, lookup]
  | cons head rest ih =>
    obtain ⟨n, b⟩ := head
    unfold erase at ih ⊢
    by_cases hn : n = name
    · subst hn
      by_cases h : other = n
      · simpa [lookup, h] using ih
      · simpa [lookup, h, Ne.symm h] using ih
    · by_cases h : n = other
      · subst h
        simp [hn, lookup]
      · simpa [List.filter_cons, hn, lookup, h] using ih

theorem lookup_eq_none {name : String} {entries : List (String × α)} (h : ∀ entry ∈ entries, entry.1 ≠ name) :
    lookup name entries = none := by
  induction entries with
  | nil => rfl
  | cons head rest ih =>
    have hhead := h head List.mem_cons_self
    have hrest := ih fun entry he => h entry (List.mem_cons_of_mem _ he)
    simp [lookup, hhead, hrest]

theorem Ascending.lookup_tail {n : String} {a : α} {rest : List (String × α)} (h : Ascending ((n, a) :: rest)) :
    lookup n rest = none :=
  lookup_eq_none fun _ he => (String.ne_of_lt ((List.pairwise_cons.1 h).1 _ he)).symm

theorem Ascending.lookup_eq_none_of_lt {name n : String} {a : α} {rest : List (String × α)}
    (h : Ascending ((n, a) :: rest)) (hlt : name < n) : lookup name ((n, a) :: rest) = none := by
  apply lookup_eq_none
  intro entry he
  rcases List.mem_cons.1 he with rfl | he
  · exact (String.ne_of_lt hlt).symm
  · exact (String.ne_of_lt (String.lt_trans hlt ((List.pairwise_cons.1 h).1 _ he))).symm

/-- Entries in ascending order are determined by what they hold under each name. -/
theorem Ascending.eq_of_lookup_eq {as bs : List (String × α)} (ha : Ascending as) (hb : Ascending bs)
    (h : ∀ name, lookup name as = lookup name bs) : as = bs := by
  induction as generalizing bs with
  | nil =>
    cases bs with
    | nil => rfl
    | cons head _ => simpa [lookup] using h head.1
  | cons head as ih =>
    obtain ⟨m, a⟩ := head
    cases bs with
    | nil => simpa [lookup] using h m
    | cons head bs =>
      obtain ⟨n, b⟩ := head
      have hm := h m
      have hn := h n
      have heq : m = n := by
        refine String.le_antisymm (fun hlt => ?_) (fun hlt => ?_)
        · rw [ha.lookup_eq_none_of_lt hlt] at hn
          simp [lookup] at hn
        · rw [hb.lookup_eq_none_of_lt hlt] at hm
          simp [lookup] at hm
      subst heq
      obtain rfl : a = b := by simpa [lookup] using hm
      have hrest := ih (List.pairwise_cons.1 ha).2 (List.pairwise_cons.1 hb).2 fun name => by
        by_cases hname : m = name
        · rw [← hname, ha.lookup_tail, hb.lookup_tail]
        · simpa [lookup, hname] using h name
      rw [hrest]

end Mishap.Entries
