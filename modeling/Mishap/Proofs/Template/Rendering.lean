import Mishap.Proofs.Template.Grouping
import Mishap.Template.Check

/-!
Rendering and checking go through a tree piece by piece: one text behind the other, and one check after the other,
however the nodes are grouped in lists. Main statement: simplifying a tree keeps its text and what its checks report.
-/

namespace Mishap

namespace Verb

/-- Two formatted texts, one behind the other. -/
def Formatted.join (a b : Formatted String) : Formatted String := do
  return (← a) ++ (← b)

theorem Formatted.join_ok (a b : String) : join (.ok a) (.ok b) = .ok (a ++ b) := rfl

theorem Formatted.join_assoc (a b c : Formatted String) : join (join a b) c = join a (join b c) := by
  cases a with
  | error e => rfl
  | ok a =>
    cases b with
    | error e => rfl
    | ok b =>
      cases c with
      | error e => rfl
      | ok c => simp only [join_ok, String.append_assoc]

theorem Formatted.join_empty (a : Formatted String) : join a (.ok "") = a := by
  cases a with
  | error e => rfl
  | ok a => rw [join_ok, String.append_empty]

theorem Formatted.empty_join (a : Formatted String) : join (.ok "") a = a := by
  cases a with
  | error e => rfl
  | ok a => rw [join_ok, String.empty_append]

instance : Std.Associative Formatted.join := ⟨Formatted.join_assoc⟩

instance : Std.LawfulIdentity Formatted.join (.ok "") where
  left_id := Formatted.empty_join
  right_id := Formatted.join_empty

/-- Formatted texts, one behind the other. -/
def Formatted.joined (texts : List (Formatted String)) : Formatted String := texts.foldr join (.ok "")

theorem Formatted.joined_append (texts rest : List (Formatted String)) :
    joined (texts ++ rest) = join (joined texts) (joined rest) := by
  induction texts with
  | nil => exact (empty_join _).symm
  | cons text texts ih =>
    have hcons (texts : List (Formatted String)) : joined (text :: texts) = join text (joined texts) := rfl
    rw [List.cons_append, hcons, hcons, ih, join_assoc]

end Verb

namespace Node

open Verb.Formatted (join join_empty joined joined_append)

variable (setting : Setting)

theorem renderItems_cons (node : Node) (rest : List Node) :
    renderItems setting (node :: rest) = join (node.render setting) (renderItems setting rest) := rfl

theorem renderItems_singleton (node : Node) : renderItems setting [node] = node.render setting := by
  rw [renderItems_cons]
  exact join_empty _

theorem renderItems_eq_joined (items : List Node) :
    renderItems setting items = joined (items.map (render setting)) := by
  induction items with
  | nil => rfl
  | cons node rest ih =>
    rw [renderItems_cons, ih]
    rfl

theorem renderItems_append (items rest : List Node) :
    renderItems setting (items ++ rest) = join (renderItems setting items) (renderItems setting rest) := by
  rw [renderItems_eq_joined, List.map_append, joined_append, renderItems_eq_joined, renderItems_eq_joined]

theorem piecewise_render : Piecewise join (.ok "") (render setting) where
  nil := rfl
  cons := renderItems_cons setting
  empty := rfl
  append _ _ := rfl

theorem render_simplify (node : Node) : node.simplify.render setting = node.render setting :=
  (piecewise_render setting).simplify (fun guard body h => by rw [render, render, h]) node

end Node

/-! ### Checking -/

namespace Located

/-- Two checks, the second only if the first finds nothing, of what is looked at and of what is only read. -/
def both (a b : Bool → Except Located Unit) (active : Bool) : Except Located Unit := do
  a active
  b active

def clean (_ : Bool) : Except Located Unit := .ok ()

instance : Std.Associative both where
  assoc a b c := by
    funext active
    simp only [both]
    cases a active <;> rfl

instance : Std.LawfulIdentity both clean where
  left_id _ := rfl
  right_id a := by
    funext active
    simp only [both]
    cases a active <;> rfl

end Located

namespace Node

variable (level : Level) (setting : Setting)

theorem piecewise_check :
    Piecewise Located.both Located.clean fun node active => node.check level setting active where
  nil := rfl
  cons _ _ := rfl
  empty := rfl
  append _ _ := rfl

theorem check_simplify (node : Node) (active : Bool) :
    node.simplify.check level setting active = node.check level setting active := by
  refine congrFun ((piecewise_check level setting).simplify (fun guard body h => ?_) node) active
  funext active
  rw [check, check]
  cases Condition.ofText? guard.condition with
  | none => rfl
  | some condition => exact congrFun h _

/-- Simplifying a tree changes neither its text nor what a check of any level reports, and where. -/
theorem simplify_keeps_meaning (node : Node) (setting : Setting) :
    node.simplify.render setting = node.render setting ∧
      ∀ level active, node.simplify.check level setting active = node.check level setting active :=
  ⟨render_simplify setting node, fun level active => check_simplify level setting node active⟩

end Node

end Mishap
