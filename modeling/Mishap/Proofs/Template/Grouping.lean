import Mishap.Proofs.Template.Simplified

/-!
How the nodes of a tree are grouped in lists, and how its text is cut into literals. A reading of trees that goes from
item to item and from text to text does not see either, and simplifying keeps it. Main statement: simplifying brings a
tree into a normal form, which two trees share exactly if they are the same letters and directives in the same order.
-/

namespace Mishap.Node

/-! ### Readings that do not see the grouping -/

/-- Trees are read piece by piece: a list as its items one behind the other, an empty text as nothing, and a text as its
beginning and then its end. -/
structure Piecewise {α : Type} (join : α → α → α) (nothing : α) (read : Node → α) : Prop where
  nil : read (list []) = nothing
  cons (node : Node) (rest : List Node) : read (list (node :: rest)) = join (read node) (read (list rest))
  empty : read (literal "") = nothing
  append (a b : String) : read (literal (a ++ b)) = join (read (literal a)) (read (literal b))

namespace Piecewise

variable {α : Type} {join : α → α → α} {nothing : α} {read : Node → α} [identity : Std.LawfulIdentity join nothing]

theorem singleton (h : Piecewise join nothing read) (node : Node) : read (list [node]) = read node := by
  rw [h.cons, h.nil, identity.right_id]

theorem spread (h : Piecewise join nothing read) (node : Node) : read (list node.spread) = read node := by
  cases node with
  | list items => rfl
  | _ => exact h.singleton _

theorem collapse (h : Piecewise join nothing read) (items : List Node) : read (collapse items) = read (list items) := by
  rcases items with _ | ⟨node, _ | ⟨other, rest⟩⟩
  · exact h.empty.trans h.nil.symm
  · exact (h.singleton node).symm
  · rfl

variable [associative : Std.Associative join]

/-- Joining literals and leaving out empty ones is not seen. -/
theorem prepend (h : Piecewise join nothing read) (node : Node) (rest : List Node) :
    read (list (node.prepend rest)) = join (read node) (read (list rest)) := by
  rw [Node.prepend.eq_def]
  split
  · next a =>
    split
    · next ha => rw [ha, h.empty, identity.left_id]
    · split
      · next b tail => rw [h.cons, h.cons, h.append, associative.assoc]
      · exact h.cons _ _
  · exact h.cons _ _

theorem foldr_prepend (h : Piecewise join nothing read) (nodes rest : List Node) :
    read (list (nodes.foldr Node.prepend rest)) = join (read (list nodes)) (read (list rest)) := by
  induction nodes with
  | nil => rw [List.foldr_nil, h.nil, identity.left_id]
  | cons node nodes ih => rw [List.foldr_cons, h.prepend, ih, h.cons, associative.assoc]

/-- Simplifying is not seen where it is not seen inside of conditionals. -/
theorem simplify (h : Piecewise join nothing read)
    (hconditional : ∀ guard body, read body.simplify = read body →
      read (conditional guard body.simplify) = read (conditional guard body)) (node : Node) :
    read node.simplify = read node := by
  induction node with
  | list items ih =>
    rw [Node.simplify, h.collapse]
    induction items with
    | nil => rfl
    | cons node rest ihrest =>
      obtain ⟨hnode, hrest⟩ := List.forall_mem_cons.1 ih
      rw [simplifyItems, h.foldr_prepend, h.spread, hnode, ihrest hrest, h.cons]
  | conditional guard body ih => exact hconditional guard body ih
  | _ => rfl

end Piecewise

/-! ### Letters and directives -/

mutual

/-- The letters and directives of a tree in order, without the lists that they stand in. The body of a conditional is
taken apart in the same way. -/
def atoms : Node → List Node
  | literal text => text.toList.map fun c => literal (String.singleton c)
  | list items => atomsIn items
  | field ref => [field ref]
  | wrap scope span => [wrap scope span]
  | conditional guard body => [conditional guard (list body.atoms)]
termination_by structural node => node

def atomsIn : List Node → List Node
  | [] => []
  | node :: rest => node.atoms ++ atomsIn rest
termination_by structural items => items

end

theorem atomsIn_eq_flatMap (items : List Node) : atomsIn items = items.flatMap atoms := by
  induction items with
  | nil => rfl
  | cons node rest ih => rw [atomsIn, ih, List.flatMap_cons]

theorem piecewise_atoms : Piecewise (fun a b => a ++ b) [] atoms where
  nil := rfl
  cons _ _ := rfl
  empty := rfl
  append a b := by simp [atoms]

/-- Simplifying keeps the letters and directives of a tree. -/
theorem atoms_simplify (node : Node) : node.simplify.atoms = node.atoms :=
  piecewise_atoms.simplify (fun guard body h => by rw [atoms, h, atoms]) node

/-- The letters of a text are simplified to the text. -/
theorem simplifyItems_letters (chars : List Char) :
    simplifyItems (chars.map fun c => literal (String.singleton c)) =
      simplifyItems [literal (String.ofList chars)] := by
  induction chars with
  | nil => exact (simplifyItems_empty_cons []).symm
  | cons c chars ih =>
    have hcons : String.ofList (c :: chars) = String.singleton c ++ String.ofList chars := by
      rw [← List.singleton_append, String.ofList_append]
      rfl
    rw [List.map_cons, simplifyItems_cons, ih, ← simplifyItems_cons, ← simplifyItems_literal_append, hcons]

/-- A tree is simplified as its letters and directives are. -/
theorem simplify_atoms (node : Node) : (list node.atoms).simplify = node.simplify := by
  induction node with
  | literal text =>
    rw [atoms, simplify, simplifyItems_letters, String.ofList_toList, ← simplify, simplify_list_singleton]
  | list items ih =>
    rw [atoms, simplify, simplify]
    congr 1
    induction items with
    | nil => rfl
    | cons node rest ihrest =>
      obtain ⟨hnode, hrest⟩ := List.forall_mem_cons.1 ih
      rw [atomsIn, ← simplifyItems_list_cons, simplifyItems_cons, hnode, ihrest hrest, ← simplifyItems_cons]
  | conditional guard body ih => rw [atoms, simplify_list_singleton, simplify, ih, simplify]
  | _ => exact simplify_list_singleton _

/-! ### Regrouping -/

/-- Two trees of which the second is the first with a literal cut in two, with an empty literal put in, or with items
that stand side by side put in a list of their own, at any place. -/
inductive Regroups : Node → Node → Prop
  | cut (before after : List Node) (a b : String) :
    Regroups (list (before ++ literal (a ++ b) :: after)) (list (before ++ literal a :: literal b :: after))
  | pad (before after : List Node) : Regroups (list (before ++ after)) (list (before ++ literal "" :: after))
  | enclose (before items after : List Node) :
    Regroups (list (before ++ items ++ after)) (list (before ++ list items :: after))
  | item (before after : List Node) {node other : Node} (h : Regroups node other) :
    Regroups (list (before ++ node :: after)) (list (before ++ other :: after))
  | body (guard : Guard) {node other : Node} (h : Regroups node other) :
    Regroups (conditional guard node) (conditional guard other)

theorem Regroups.atoms_eq {node other : Node} (h : node.Regroups other) : other.atoms = node.atoms := by
  induction h with
  | cut before after a b => simp [atoms, atomsIn_eq_flatMap]
  | pad before after => simp [atoms, atomsIn_eq_flatMap]
  | enclose before items after => simp [atoms, atomsIn_eq_flatMap]
  | item before after _ ih => simp [atoms, atomsIn_eq_flatMap, ih]
  | body guard _ ih => rw [atoms, ih, atoms]

theorem simplify_eq_simplify_iff {node other : Node} : node.simplify = other.simplify ↔ node.atoms = other.atoms := by
  constructor
  · intro h
    rw [← atoms_simplify node, h, atoms_simplify]
  · intro h
    rw [← simplify_atoms node, h, simplify_atoms]

/-- Simplifying gives a normal form: a tree in which no list could be flattened or left out and no literal joined or
left out, which is simplified already, and which two trees share exactly if they are the same letters and directives, as
they are when one is the other regrouped. -/
theorem simplify_normalizes (node : Node) :
    node.simplify.Everywhere Compact ∧ node.simplify.simplify = node.simplify ∧
      (∀ other : Node, node.simplify = other.simplify ↔ node.atoms = other.atoms) ∧
      ∀ other : Node, node.Regroups other → other.simplify = node.simplify := by
  refine ⟨compact_simplify node, simplify_of_compact (compact_simplify node), fun other => simplify_eq_simplify_iff, ?_⟩
  intro other h
  exact simplify_eq_simplify_iff.2 h.atoms_eq

/-- A literal in a list of its own, inside of a conditional, is joined with the one before it. -/
theorem simplify_normalizes_nested :
    (conditional ⟨.own, "m>0", false, ⟨0, 9⟩⟩ (list [literal "a", literal "b"])).Regroups
        (conditional ⟨.own, "m>0", false, ⟨0, 9⟩⟩ (list [literal "a", list [literal "b"]])) ∧
      (conditional ⟨.own, "m>0", false, ⟨0, 9⟩⟩ (list [literal "a", list [literal "b"]])).simplify =
        (conditional ⟨.own, "m>0", false, ⟨0, 9⟩⟩ (list [literal "a", literal "b"])).simplify := by
  have h := Regroups.body ⟨.own, "m>0", false, ⟨0, 9⟩⟩ (.enclose [literal "a"] [literal "b"] [])
  exact ⟨h, (simplify_normalizes _).2.2.2 _ h⟩

end Mishap.Node
