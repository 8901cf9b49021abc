import Mathlib.Data.List.Chain
import Mishap.Template.Node

/-!
Simplified trees. A simplified tree has no list that could be flattened or left out and no literal that could be joined
with its neighbour or left out, and such a tree is simplified already. Simplifying does not look at spans.
-/

namespace Mishap.Node

/-- Induction on a node, the items of a list included. -/
@[elab_as_elim, induction_eliminator]
theorem induct {motive : Node → Prop} (literal : ∀ text, motive (.literal text))
    (list : ∀ items, (∀ node ∈ items, motive node) → motive (.list items))
    (field : ∀ ref, motive (.field ref)) (wrap : ∀ scope span, motive (.wrap scope span))
    (conditional : ∀ guard body, motive body → motive (.conditional guard body)) (node : Node) :
    motive node :=
  @Node.rec motive (fun items => ∀ node ∈ items, motive node) literal list field wrap conditional
    (by simp) (fun _ _ hnode hrest => List.forall_mem_cons.2 ⟨hnode, hrest⟩) node

/-! ### Properties of all nodes of a tree -/

mutual

/-- The node and every node below it has the property. -/
def Everywhere (p : Node → Prop) : Node → Prop
  | literal text => p (literal text)
  | list items => p (list items) ∧ EverywhereIn p items
  | field ref => p (field ref)
  | wrap scope span => p (wrap scope span)
  | conditional guard body => p (conditional guard body) ∧ body.Everywhere p
termination_by structural node => node

def EverywhereIn (p : Node → Prop) : List Node → Prop
  | [] => True
  | node :: rest => node.Everywhere p ∧ EverywhereIn p rest
termination_by structural items => items

end

theorem everywhereIn_iff {p : Node → Prop} {items : List Node} :
    EverywhereIn p items ↔ ∀ node ∈ items, node.Everywhere p := by
  induction items with
  | nil => simp [EverywhereIn]
  | cons node rest ih => simp [EverywhereIn, ih]

theorem everywhere_list {p : Node → Prop} {items : List Node} :
    (list items).Everywhere p ↔ p (list items) ∧ ∀ node ∈ items, node.Everywhere p := by
  rw [Everywhere, everywhereIn_iff]

theorem everywhere_of_forall {p : Node → Prop} (h : ∀ node, p node) (node : Node) : node.Everywhere p := by
  induction node with
  | list items ih => exact everywhere_list.2 ⟨h _, ih⟩
  | conditional guard body ih => exact ⟨h _, ih⟩
  | _ => exact h _

theorem Everywhere.imp {p q : Node → Prop} (hpq : ∀ node, p node → q node) {node : Node} (h : node.Everywhere p) :
    node.Everywhere q := by
  induction node with
  | list items ih =>
    obtain ⟨hlist, hitems⟩ := everywhere_list.1 h
    exact everywhere_list.2 ⟨hpq _ hlist, fun node hnode => ih node hnode (hitems node hnode)⟩
  | conditional guard body ih => exact ⟨hpq _ h.1, ih h.2⟩
  | _ => exact hpq _ h

theorem Everywhere.self {p : Node → Prop} {node : Node} (h : node.Everywhere p) : p node := by
  cases node with
  | list items => exact (everywhere_list.1 h).1
  | conditional guard body => exact h.1
  | _ => exact h

/-! ### Compact lists -/

def isList : Node → Bool
  | list _ => true
  | _ => false

theorem spread_of_not_list {node : Node} (h : node.isList = false) : node.spread = [node] := by
  cases node with
  | list items => cases h
  | _ => rfl

/-- Two nodes side by side that are not joined into one. -/
def Apart : Node → Node → Prop
  | literal _, literal _ => False
  | _, _ => True

/-- Items of which none is flattened, left out or joined with its neighbour. -/
structure Separated (items : List Node) : Prop where
  not_list : ∀ node ∈ items, node.isList = false
  not_empty : ∀ node ∈ items, node ≠ literal ""
  apart : items.IsChain Apart

/-- A list of two items at least, all separated; any node but a list. -/
def Compact : Node → Prop
  | list items => 2 ≤ items.length ∧ Separated items
  | _ => True

theorem separated_nil : Separated [] := ⟨by simp, by simp, .nil⟩

theorem Separated.tail {node : Node} {rest : List Node} (h : Separated (node :: rest)) : Separated rest where
  not_list n hn := h.not_list n (List.mem_cons_of_mem _ hn)
  not_empty n hn := h.not_empty n (List.mem_cons_of_mem _ hn)
  apart := h.apart.tail

theorem Separated.cons {node : Node} {rest : List Node} (hrest : Separated rest)
    (hlist : node.isList = false) (hempty : node ≠ literal "") (hapart : ∀ n ∈ rest.head?, Apart node n) :
    Separated (node :: rest) where
  not_list := List.forall_mem_cons.2 ⟨hlist, hrest.not_list⟩
  not_empty := List.forall_mem_cons.2 ⟨hempty, hrest.not_empty⟩
  apart := List.isChain_cons.2 ⟨hapart, hrest.apart⟩

theorem prepend_empty (rest : List Node) : prepend (literal "") rest = rest := by
  simp [prepend]

theorem prepend_eq_cons {node : Node} {rest : List Node} (hempty : node ≠ literal "")
    (hapart : ∀ n ∈ rest.head?, Apart node n) : prepend node rest = node :: rest := by
  cases node with
  | literal text =>
    have htext : text ≠ "" := fun h => hempty (h ▸ rfl)
    cases rest with
    | nil => simp [prepend, htext]
    | cons head rest =>
      cases head with
      | literal other => exact absurd (hapart (literal other) rfl) (by simp [Apart])
      | _ => simp [prepend, htext]
  | _ => rfl

theorem prepend_literal_literal {a b : String} (ha : a ≠ "") (rest : List Node) :
    prepend (literal a) (literal b :: rest) = literal (a ++ b) :: rest := by
  simp [prepend, ha]

theorem Separated.prepend {node : Node} {rest : List Node} (hrest : Separated rest)
    (hlist : node.isList = false) : Separated (prepend node rest) := by
  by_cases hempty : node = literal ""
  · rw [hempty, prepend_empty]
    exact hrest
  by_cases hapart : ∀ n ∈ rest.head?, Apart node n
  · rw [prepend_eq_cons hempty hapart]
    exact hrest.cons hlist hempty hapart
  -- what is left are two literals side by side
  obtain ⟨a, b, rest, rfl, rfl⟩ : ∃ a b tail, node = literal a ∧ rest = literal b :: tail := by
    cases node <;> cases rest with
    | nil => simp at hapart
    | cons head tail => cases head <;> simp_all [Apart]
  have ha : a ≠ "" := fun h => hempty (h ▸ rfl)
  have hb : ∀ n ∈ rest.head?, Apart (literal b) n := (List.isChain_cons.1 hrest.apart).1
  rw [prepend_literal_literal ha]
  refine hrest.tail.cons rfl (by simp [ha]) fun n hn => ?_
  have h := hb n hn
  cases n <;> first | exact trivial | exact h

theorem Separated.foldr_prepend {nodes rest : List Node} (hrest : Separated rest)
    (hlist : ∀ node ∈ nodes, node.isList = false) : Separated (nodes.foldr Node.prepend rest) := by
  induction nodes with
  | nil => exact hrest
  | cons node nodes ih =>
    obtain ⟨hnode, hnodes⟩ := List.forall_mem_cons.1 hlist
    exact (ih hnodes).prepend hnode

theorem separated_simplifyItems_of {items : List Node}
    (h : ∀ node ∈ items, ∀ n ∈ node.simplify.spread, n.isList = false) : Separated (simplifyItems items) := by
  induction items with
  | nil => exact separated_nil
  | cons node rest ih =>
    obtain ⟨hnode, hrest⟩ := List.forall_mem_cons.1 h
    exact (ih hrest).foldr_prepend hnode

theorem not_list_of_mem_spread_simplify (node : Node) : ∀ n ∈ node.simplify.spread, n.isList = false := by
  induction node with
  | list items ih =>
    have h := separated_simplifyItems_of ih
    intro n hn
    -- collapsing leaves an empty literal, one node that is no list, or the list whose items are spread
    rw [simplify, collapse.eq_def] at hn
    split at hn
    · simp_all [spread, isList]
    · next single hsingle =>
      have hs := h.not_list single (by simp [hsingle])
      cases single with
      | list _ => simp [isList] at hs
      | _ => simp_all [spread, isList]
    · exact h.not_list n hn
  | _ => simp [simplify, spread, isList]

theorem separated_simplifyItems (items : List Node) : Separated (simplifyItems items) :=
  separated_simplifyItems_of fun node _ => not_list_of_mem_spread_simplify node

/-! ### Simplifying gives compact lists -/

theorem forall_mem_prepend {p : Node → Prop} (hliteral : ∀ text, p (literal text)) {node : Node} {rest : List Node}
    (hnode : p node) (hrest : ∀ n ∈ rest, p n) : ∀ n ∈ prepend node rest, p n := by
  rw [prepend.eq_def]
  split
  · split
    · exact hrest
    · split
      · exact List.forall_mem_cons.2 ⟨hliteral _, (List.forall_mem_cons.1 hrest).2⟩
      · exact List.forall_mem_cons.2 ⟨hnode, hrest⟩
  · exact List.forall_mem_cons.2 ⟨hnode, hrest⟩

theorem forall_mem_foldr_prepend {p : Node → Prop} (hliteral : ∀ text, p (literal text)) {nodes rest : List Node}
    (hnodes : ∀ n ∈ nodes, p n) (hrest : ∀ n ∈ rest, p n) : ∀ n ∈ nodes.foldr prepend rest, p n := by
  induction nodes with
  | nil => exact hrest
  | cons node nodes ih =>
    obtain ⟨hnode, hnodes⟩ := List.forall_mem_cons.1 hnodes
    exact forall_mem_prepend hliteral hnode (ih hnodes)

theorem Everywhere.spread {p : Node → Prop} {node : Node} (h : node.Everywhere p) :
    ∀ n ∈ node.spread, n.Everywhere p := by
  cases node with
  | list items => exact (everywhere_list.1 h).2
  | _ => simpa [Node.spread] using h

theorem everywhere_collapse {p : Node → Prop} {items : List Node} (hempty : p (literal ""))
    (hlist : 2 ≤ items.length → p (list items)) (hitems : ∀ n ∈ items, n.Everywhere p) :
    (collapse items).Everywhere p := by
  rw [collapse.eq_def]
  split
  · exact hempty
  · exact hitems _ (by simp)
  · next hnil hsingle =>
    have hlength : 2 ≤ items.length := by
      rcases items with _ | ⟨a, _ | ⟨b, rest⟩⟩
      · exact absurd rfl hnil
      · exact absurd rfl (hsingle a)
      · simp
    exact everywhere_list.2 ⟨hlist hlength, hitems⟩

/-- What holds of a simplified tree: a property of literals, and, for the rest, one that the nodes of the tree had
before. -/
theorem everywhere_simplify {p q : Node → Prop} (hliteral : ∀ text, p (literal text))
    (hlist : ∀ items, q (list items) → 2 ≤ (simplifyItems items).length → p (list (simplifyItems items)))
    (hfield : ∀ ref, q (field ref) → p (field ref)) (hwrap : ∀ scope span, q (wrap scope span) → p (wrap scope span))
    (hconditional : ∀ guard body, q (conditional guard body) → p (conditional guard body.simplify))
    {node : Node} (h : node.Everywhere q) : node.simplify.Everywhere p := by
  induction node with
  | literal text => exact hliteral text
  | list items ih =>
    have hitems : ∀ node ∈ items, node.simplify.Everywhere p :=
      fun node hnode => ih node hnode ((everywhere_list.1 h).2 node hnode)
    have hliterals : ∀ text, (literal text).Everywhere p := hliteral
    have hsimplified : ∀ n ∈ simplifyItems items, n.Everywhere p := by
      clear ih h
      induction items with
      | nil => simp [simplifyItems]
      | cons node rest ih =>
        obtain ⟨hnode, hrest⟩ := List.forall_mem_cons.1 hitems
        exact forall_mem_foldr_prepend hliterals hnode.spread (ih hrest)
    exact everywhere_collapse (hliteral "") (hlist items (everywhere_list.1 h).1) hsimplified
  | field ref => exact hfield ref h
  | wrap scope span => exact hwrap scope span h
  | conditional guard body ih => exact ⟨hconditional guard body h.1, ih h.2⟩

/-! ### Compact trees are simplified -/

theorem foldr_prepend_nil {items : List Node} (h : Separated items) : items.foldr prepend [] = items := by
  induction items with
  | nil => rfl
  | cons node rest ih =>
    rw [List.foldr_cons, ih h.tail]
    exact prepend_eq_cons (h.not_empty node List.mem_cons_self) (List.isChain_cons.1 h.apart).1

theorem simplifyItems_of_separated {items : List Node} (h : Separated items)
    (hitems : ∀ node ∈ items, node.simplify = node) : simplifyItems items = items := by
  have hfoldr : simplifyItems items = items.foldr prepend [] := by
    have hlist := h.not_list
    clear h
    induction items with
    | nil => rfl
    | cons node rest ih =>
      obtain ⟨hnode, hrest⟩ := List.forall_mem_cons.1 hitems
      obtain ⟨hnotList, hlist⟩ := List.forall_mem_cons.1 hlist
      rw [simplifyItems, hnode, spread_of_not_list hnotList, ih hrest hlist]
      rfl
  rw [hfoldr, foldr_prepend_nil h]

theorem collapse_of_two_le {items : List Node} (h : 2 ≤ items.length) : collapse items = list items := by
  rcases items with _ | ⟨a, _ | ⟨b, rest⟩⟩
  · simp at h
  · simp at h
  · rfl

theorem simplify_of_compact {node : Node} (h : node.Everywhere Compact) : node.simplify = node := by
  induction node with
  | list items ih =>
    obtain ⟨⟨hlength, hseparated⟩, hitems⟩ := everywhere_list.1 h
    have hsimplify : ∀ node ∈ items, node.simplify = node := fun node hnode => ih node hnode (hitems node hnode)
    rw [simplify, simplifyItems_of_separated hseparated hsimplify, collapse_of_two_le hlength]
  | conditional guard body ih => rw [simplify, ih h.2]
  | _ => rfl

/-! ### Joining lists -/

theorem prepend_literal_append (a b : String) (rest : List Node) :
    prepend (literal (a ++ b)) rest = prepend (literal a) (prepend (literal b) rest) := by
  by_cases ha : a = ""
  · rw [ha, String.empty_append, prepend_empty]
  by_cases hb : b = ""
  · rw [hb, String.append_empty, prepend_empty]
  have hab : a ++ b ≠ "" := by simp [ha]
  rcases rest with _ | ⟨head, rest⟩
  · simp [prepend, ha, hb]
  · cases head <;> simp [prepend, ha, hb, String.append_assoc]

theorem foldr_prepend_prepend (node : Node) (nodes rest : List Node) :
    (prepend node nodes).foldr prepend rest = prepend node (nodes.foldr prepend rest) := by
  cases node with
  | literal a =>
    by_cases ha : a = ""
    · rw [ha, prepend_empty, prepend_empty]
    rcases nodes with _ | ⟨head, nodes⟩
    · simp [prepend, ha]
    cases head with
    | literal b =>
      rw [prepend_literal_literal ha]
      exact prepend_literal_append a b _
    | _ => simp [prepend, ha]
  | _ => rfl

theorem foldr_prepend_foldr (nodes items rest : List Node) :
    (nodes.foldr prepend items).foldr prepend rest = nodes.foldr prepend (items.foldr prepend rest) := by
  induction nodes with
  | nil => rfl
  | cons node nodes ih => rw [List.foldr_cons, foldr_prepend_prepend, ih, List.foldr_cons]

theorem simplifyItems_append (items rest : List Node) :
    simplifyItems (items ++ rest) = (simplifyItems items).foldr prepend (simplifyItems rest) := by
  induction items with
  | nil => rfl
  | cons node items ih => rw [List.cons_append, simplifyItems, ih, simplifyItems, foldr_prepend_foldr]

theorem simplifyItems_cons (node : Node) (items : List Node) :
    simplifyItems (node :: items) = node.simplify.spread.foldr prepend (simplifyItems items) := rfl

theorem simplifyItems_empty_cons (items : List Node) : simplifyItems (literal "" :: items) = simplifyItems items :=
  prepend_empty _

theorem simplifyItems_literal_append (a b : String) (items : List Node) :
    simplifyItems (literal (a ++ b) :: items) = simplifyItems (literal a :: literal b :: items) :=
  prepend_literal_append a b _

/-- A list inside of a list is simplified as its items. -/
theorem simplifyItems_list_cons (items rest : List Node) :
    simplifyItems (list items :: rest) = simplifyItems (items ++ rest) := by
  have hspread : (collapse (simplifyItems items)).spread.foldr prepend (simplifyItems rest) =
      (simplifyItems items).foldr prepend (simplifyItems rest) := by
    -- a list that collapses gives an empty literal, which leaves no trace, or its only item
    have hlist := (separated_simplifyItems items).not_list
    generalize simplifyItems items = simple at hlist ⊢
    rcases simple with _ | ⟨a, _ | ⟨b, tail⟩⟩
    · rfl
    · have ha := hlist a List.mem_cons_self
      cases a with
      | list _ => simp [isList] at ha
      | _ => rfl
    · rfl
  rw [simplifyItems_cons, simplify, hspread, simplifyItems_append]

theorem compact_simplify (node : Node) : node.simplify.Everywhere Compact :=
  everywhere_simplify (fun _ => trivial) (fun items _ hlength => ⟨hlength, separated_simplifyItems items⟩)
    (fun _ _ => trivial) (fun _ _ _ => trivial) (fun _ _ _ => trivial) (everywhere_of_forall (fun _ => trivial) node)

/-- A list of one node is simplified to the node simplified. -/
theorem simplify_list_singleton (node : Node) : (list [node]).simplify = node.simplify := by
  have hcompact := compact_simplify node
  rw [simplify, simplifyItems_cons, simplifyItems]
  generalize node.simplify = simple at hcompact
  cases simple with
  | literal text => by_cases h : text = "" <;> simp [spread, prepend, collapse, h]
  | list items =>
    obtain ⟨hlength, hitems⟩ := (everywhere_list.1 hcompact).1
    rw [spread, foldr_prepend_nil hitems, collapse_of_two_le hlength]
  | _ => rfl

/-! ### Spans -/

mutual

/-- The tree with every span changed by `f`. -/
def mapSpans (f : Span → Span) : Node → Node
  | literal text => literal text
  | list items => list (mapSpansIn f items)
  | field ref => field { ref with span := f ref.span }
  | wrap scope span => wrap scope (f span)
  | conditional guard body => conditional { guard with span := f guard.span } (body.mapSpans f)
termination_by structural node => node

def mapSpansIn (f : Span → Span) : List Node → List Node
  | [] => []
  | node :: rest => node.mapSpans f :: mapSpansIn f rest
termination_by structural items => items

end

section
variable (f : Span → Span)

theorem mapSpansIn_eq_map (items : List Node) : mapSpansIn f items = items.map (mapSpans f) := by
  induction items with
  | nil => rfl
  | cons node rest ih => rw [mapSpansIn, ih, List.map_cons]

theorem map_mapSpans_prepend (node : Node) (rest : List Node) :
    (prepend node rest).map (mapSpans f) = prepend (node.mapSpans f) (rest.map (mapSpans f)) := by
  cases node with
  | literal a =>
    by_cases ha : a = ""
    · simp [prepend, mapSpans, ha]
    · rcases rest with _ | ⟨head, rest⟩
      · simp [prepend, mapSpans, ha]
      · cases head <;> simp [prepend, mapSpans, ha]
  | _ => simp [prepend, mapSpans]

theorem map_mapSpans_foldr_prepend (nodes rest : List Node) :
    (nodes.foldr prepend rest).map (mapSpans f) = (nodes.map (mapSpans f)).foldr prepend (rest.map (mapSpans f)) := by
  induction nodes with
  | nil => rfl
  | cons node nodes ih => simp [map_mapSpans_prepend, ih]

theorem mapSpans_collapse (items : List Node) : (collapse items).mapSpans f = collapse (items.map (mapSpans f)) := by
  rcases items with _ | ⟨a, _ | ⟨b, rest⟩⟩
  · rfl
  · rfl
  · simp [collapse, mapSpans, mapSpansIn_eq_map]

theorem spread_mapSpans (node : Node) : (node.mapSpans f).spread = node.spread.map (mapSpans f) := by
  cases node with
  | list items => exact mapSpansIn_eq_map f items
  | _ => rfl

/-- Simplifying does not look at spans. -/
theorem mapSpans_simplify (node : Node) : node.simplify.mapSpans f = (node.mapSpans f).simplify := by
  induction node with
  | list items ih =>
    have hitems : (simplifyItems items).map (mapSpans f) = simplifyItems (items.map (mapSpans f)) := by
      induction items with
      | nil => rfl
      | cons node rest ihrest =>
        obtain ⟨hnode, hrest⟩ := List.forall_mem_cons.1 ih
        rw [simplifyItems, map_mapSpans_foldr_prepend, ihrest hrest, List.map_cons, simplifyItems, ← hnode,
          spread_mapSpans]
    rw [simplify, mapSpans_collapse, hitems, mapSpans, mapSpansIn_eq_map, simplify]
  | conditional guard body ih => rw [simplify, mapSpans, ih, mapSpans, simplify]
  | _ => rfl

end

/-! ### Trees without their spans -/

mutual

/-- The tree with every span empty. Two trees are equal up to spans if they are equal without them. -/
def bare : Node → Node
  | literal text => literal text
  | list items => list (bareItems items)
  | field ref => field { ref with span := ⟨0, 0⟩ }
  | wrap scope _ => wrap scope ⟨0, 0⟩
  | conditional guard body => conditional { guard with span := ⟨0, 0⟩ } body.bare
termination_by structural node => node

def bareItems : List Node → List Node
  | [] => []
  | node :: rest => node.bare :: bareItems rest
termination_by structural items => items

end

theorem bareItems_eq_map (items : List Node) : bareItems items = items.map bare := by
  induction items with
  | nil => rfl
  | cons node rest ih => rw [bareItems, ih, List.map_cons]

theorem bare_eq_mapSpans (node : Node) : node.bare = node.mapSpans fun _ => ⟨0, 0⟩ := by
  induction node with
  | list items ih => rw [bare, bareItems_eq_map, mapSpans, mapSpansIn_eq_map, List.map_congr_left ih]
  | conditional guard body ih => rw [bare, ih, mapSpans]
  | _ => rfl

theorem bare_simplify (node : Node) : node.simplify.bare = node.bare.simplify := by
  rw [bare_eq_mapSpans, bare_eq_mapSpans, mapSpans_simplify]

end Mishap.Node
