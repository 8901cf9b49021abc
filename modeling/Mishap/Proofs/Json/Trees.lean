import Mishap.Json.Parser
import Mishap.Proofs.Json.Scanning

/-!
JSON trees that are read back. Main statement: a tree is read back from the text that it is rendered to, as long as its
numbers are and its containers are nested no deeper than a text may be.
-/

namespace Mishap.Json

mutual

/-- How many containers are nested in each other. -/
def depth : Json → Nat
  | array items => itemsDepth items + 1
  | object members => membersDepth members + 1
  | _ => 0
termination_by structural j => j

def itemsDepth : List Json → Nat
  | [] => 0
  | j :: rest => max j.depth (itemsDepth rest)
termination_by structural items => items

def membersDepth : List (String × Json) → Nat
  | [] => 0
  | (_, j) :: rest => max j.depth (membersDepth rest)
termination_by structural members => members

end

theorem itemsDepth_eq_foldr (items : List Json) : itemsDepth items = (items.map depth).foldr max 0 := by
  induction items with
  | nil => rfl
  | cons j rest ih => rw [itemsDepth, ih, List.map_cons, List.foldr_cons]

theorem membersDepth_eq_foldr (members : List (String × Json)) :
    membersDepth members = (members.map fun member => member.2.depth).foldr max 0 := by
  induction members with
  | nil => rfl
  | cons member rest ih => rw [membersDepth, ih, List.map_cons, List.foldr_cons]

namespace Reading

/-! ### Runs of the reader -/

def reads? (r : Reading) (lexemes : List Lexeme) : Option Reading := lexemes.foldlM step? r

theorem reads?_append (r : Reading) (front behind : List Lexeme) :
    r.reads? (front ++ behind) = (r.reads? front).bind (·.reads? behind) := by
  rw [reads?, List.foldlM_append]
  rfl

theorem reads?_cons (r : Reading) (l : Lexeme) (rest : List Lexeme) : r.reads? (l :: rest) = (r.step? l).bind (·.reads? rest) := by
  rw [reads?, List.foldlM_cons]
  rfl

variable {j : Json} {stack : List Frame} {closable : Bool}

/-- The lexemes of a tree are read as this tree, wherever the containers around it leave it room. -/
def Reads (j : Json) : Prop :=
  ∀ stack closable, stack.length + j.depth ≤ deepest →
    reads? ⟨stack, .value closable⟩ j.lexemes = some (place stack j)

theorem step?_opening_array (h : stack.length < deepest) :
    step? ⟨stack, .value closable⟩ (.opening .array) = some ⟨.array [] :: stack, .value true⟩ :=
  if_neg (Nat.not_le.2 h)

theorem step?_opening_object (h : stack.length < deepest) :
    step? ⟨stack, .value closable⟩ (.opening .object) = some ⟨stack, .name [] true⟩ :=
  if_neg (Nat.not_le.2 h)

/-- Items are added to an array until it is closed. -/
theorem reads?_items {items : List Json} (hitems : ∀ j ∈ items, Reads j) (hne : items ≠ [])
    (hdepth : stack.length + 1 + itemsDepth items ≤ deepest) (done : List Json) (closable : Bool) :
    reads? ⟨.array done :: stack, .value closable⟩ ([.comma].intercalate (itemLexemes items) ++ [.closing .array]) =
      some (place stack (.array (done.reverse ++ items))) := by
  induction items generalizing done closable with
  | nil => exact absurd rfl hne
  | cons j rest ih =>
    obtain ⟨hj, hrest⟩ := List.forall_mem_cons.1 hitems
    rw [itemsDepth] at hdepth
    have hread : reads? ⟨.array done :: stack, .value closable⟩ j.lexemes = some ⟨stack, .separator (.array (j :: done))⟩ :=
      hj (.array done :: stack) closable (by rw [List.length_cons]; omega)
    cases rest with
    | nil =>
      rw [itemLexemes, itemLexemes, List.intercalate_singleton, reads?_append, hread, ← List.reverse_cons]
      rfl
    | cons k rest =>
      have hnext := ih hrest (List.cons_ne_nil _ _) (by omega) (j :: done) false
      rw [List.reverse_cons, List.append_assoc, List.singleton_append] at hnext
      rw [itemLexemes, itemLexemes, List.intercalate_cons_cons, List.append_assoc, List.append_assoc, reads?_append, hread,
        Option.bind_some, List.singleton_append, reads?_cons]
      exact hnext

/-- Members are added to an object until it is closed. -/
theorem reads?_members {members : List (String × Json)} (hmembers : ∀ member ∈ members, Reads member.2) (hne : members ≠ [])
    (hdepth : stack.length + 1 + membersDepth members ≤ deepest) (done : List (String × Json)) (closable : Bool) :
    reads? ⟨stack, .name done closable⟩ ([.comma].intercalate (memberLexemes members) ++ [.closing .object]) =
      some (place stack (.object (done.reverse ++ members))) := by
  induction members generalizing done closable with
  | nil => exact absurd rfl hne
  | cons member rest ih =>
    obtain ⟨name, j⟩ := member
    obtain ⟨hj, hrest⟩ := List.forall_mem_cons.1 hmembers
    replace hj : Reads j := hj
    rw [membersDepth] at hdepth
    have hread : reads? ⟨stack, .name done closable⟩ (.scalar (.text name) :: .colon :: j.lexemes) =
        some ⟨stack, .separator (.object ((name, j) :: done))⟩ := by
      have hvalue := hj (.member done name :: stack) false (by rw [List.length_cons]; omega)
      have hnamed : reads? ⟨stack, .name done closable⟩ [.scalar (.text name), .colon] =
          some ⟨.member done name :: stack, .value false⟩ := rfl
      rw [show .scalar (.text name) :: .colon :: j.lexemes = [.scalar (.text name), .colon] ++ j.lexemes from rfl,
        reads?_append, hnamed, Option.bind_some, hvalue]
      rfl
    cases rest with
    | nil =>
      rw [memberLexemes, memberLexemes, List.intercalate_singleton, reads?_append, hread, ← List.reverse_cons]
      rfl
    | cons next rest =>
      have hnext := ih hrest (List.cons_ne_nil _ _) (by omega) ((name, j) :: done) false
      rw [List.reverse_cons, List.append_assoc, List.singleton_append] at hnext
      obtain ⟨nextName, k⟩ := next
      rw [memberLexemes, memberLexemes, List.intercalate_cons_cons, List.append_assoc, List.append_assoc, reads?_append,
        hread, Option.bind_some, List.singleton_append, reads?_cons]
      exact hnext

theorem reads_lexemes (j : Json) : Reads j := by
  induction j with
  | array items ih =>
    intro stack closable hdepth
    rw [depth] at hdepth
    have hroom : stack.length < deepest := by omega
    rw [lexemes, reads?_cons, step?_opening_array hroom, Option.bind_some]
    by_cases hne : items = []
    · rw [hne]
      rfl
    · exact reads?_items ih hne (by omega) [] true
  | object members ih =>
    intro stack closable hdepth
    rw [depth] at hdepth
    have hroom : stack.length < deepest := by omega
    rw [lexemes, reads?_cons, step?_opening_object hroom, Option.bind_some]
    by_cases hne : members = []
    · rw [hne]
      rfl
    · exact reads?_members ih hne (by omega) [] true
  | _ => exact fun stack closable _ => rfl

end Reading

theorem ofLexemes?_lexemes {j : Json} (hdepth : j.depth ≤ Reading.deepest) : ofLexemes? j.lexemes = some j := by
  have hread := Reading.reads_lexemes j [] false (by rw [List.length_nil]; omega)
  rw [ofLexemes?, ← Reading.reads?, hread]
  rfl

/-- What a tree is rendered to is read as this tree. -/
theorem ofText?_render {j : Json} (h : Faithful j) (hdepth : j.depth ≤ Reading.deepest) : ofText? j.render = some j := by
  rw [ofText?, Lexeme.scan?_of_scans (scans_render h), Option.bind_some, ofLexemes?_lexemes hdepth]

end Mishap.Json
