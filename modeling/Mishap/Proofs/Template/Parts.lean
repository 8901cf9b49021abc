import Mishap.Proofs.Template.Rendering
import Mishap.Template.Check

/-!
The parts of a tree in source order, each with the conditionals around it. Rendering and checking are the same walk over
these parts: a message is the texts of the parts that are shown, one behind the other, and a check finds the first part
that has a problem.
-/

namespace Mishap

/-- A part of a message that is no list: a text, a directive, or the head of a conditional. -/
inductive Part
  | literal (text : String)
  | field (ref : FieldRef)
  | wrap (scope : Scope) (span : Span)
  | head (guard : Guard)

/-- A part with the heads of the conditionals around it, the outermost first. -/
structure Placed where
  around : List Guard
  part : Part

namespace Node

mutual

/-- The parts of a node inside of conditionals. -/
def parts (around : List Guard) : Node → List Placed
  | literal text => [⟨around, .literal text⟩]
  | list items => partsIn around items
  | field ref => [⟨around, .field ref⟩]
  | wrap scope span => [⟨around, .wrap scope span⟩]
  | conditional guard body => ⟨around, .head guard⟩ :: body.parts (around ++ [guard])
termination_by structural node => node

def partsIn (around : List Guard) : List Node → List Placed
  | [] => []
  | node :: rest => node.parts around ++ partsIn around rest
termination_by structural items => items

end

theorem partsIn_eq_flatMap (around : List Guard) (items : List Node) :
    partsIn around items = items.flatMap (parts around) := by
  induction items with
  | nil => rfl
  | cons node rest ih => rw [partsIn, ih, List.flatMap_cons]

/-- The conditionals around a node are around each of its parts. -/
theorem subset_around (node : Node) (around : List Guard) : ∀ placed ∈ node.parts around, around ⊆ placed.around := by
  induction node generalizing around with
  | list items ih =>
    intro placed hplaced
    rw [parts, partsIn_eq_flatMap] at hplaced
    obtain ⟨node, hnode, hmem⟩ := List.mem_flatMap.1 hplaced
    exact ih node hnode around placed hmem
  | conditional guard body ih =>
    intro placed hplaced
    rw [parts] at hplaced
    rcases List.mem_cons.1 hplaced with rfl | hmem
    · exact List.Subset.refl _
    · exact List.Subset.trans (List.subset_append_left around [guard]) (ih _ placed hmem)
  | _ => simp [parts]

end Node

/-! ### Rendering -/

/-- Whether every conditional around the part shows its body. -/
def Placed.shown (setting : Setting) (placed : Placed) : Bool := placed.around.all setting.shows

namespace Setting

/-- The text of a part that gets what it asks for; none for a field that its map does not hold, a wrapped cause where
there is none, and a cause to be interpolated that cannot be. -/
def answer? (setting : Setting) : Part → Option (Verb.Formatted String)
  | .literal text => some (.ok text)
  | .field ref =>
    if isMapSelector ref.name then some (formatValue (setting.params ref.scope).toValue ref.verbText)
    else ((setting.params ref.scope).get? ref.name).map (formatValue · ref.verbText)
  | .wrap .own _ => setting.cause.map Voice.message
  | .wrap .passed _ => setting.cause.bind fun voice => voice.interpolate.map (· setting.passed)
  | .head _ => some (.ok "")

/-- What stands in for the answer to a part. -/
def fallback (setting : Setting) : Part → Verb.Formatted String
  | .field _ => .ok missingValueText
  | .wrap _ _ =>
    match setting.cause with
    | some voice => voice.message
    | none => .ok noCauseText
  | _ => .ok ""

/-- The text of a part. -/
def partText (setting : Setting) (part : Part) : Verb.Formatted String :=
  (setting.answer? part).getD (setting.fallback part)

theorem partText_field (setting : Setting) (ref : FieldRef) :
    setting.partText (.field ref) = setting.fieldText ref := by
  rw [partText, answer?, fieldText]
  split
  · rfl
  · cases (setting.params ref.scope).get? ref.name <;> rfl

theorem partText_wrap (setting : Setting) (scope : Scope) (span : Span) :
    setting.partText (.wrap scope span) = setting.causeText scope := by
  obtain ⟨own, passed, cause⟩ := setting
  cases cause with
  | none => cases scope <;> rfl
  | some voice =>
    cases scope with
    | own => rfl
    | passed =>
      obtain ⟨message, interpolate⟩ := voice
      cases interpolate <;> rfl

end Setting

namespace Node

open Verb.Formatted (join join_empty empty_join joined joined_append)

variable (setting : Setting)

/-- The parts of a tree that are shown. -/
def visited (node : Node) : List Placed := (node.parts []).filter (Placed.shown setting)

/-- The texts of the parts that are shown, one behind the other. -/
def visitedText (placed : List Placed) : Verb.Formatted String :=
  joined ((placed.filter (Placed.shown setting)).map fun p => setting.partText p.part)

theorem visitedText_append (placed rest : List Placed) :
    visitedText setting (placed ++ rest) = join (visitedText setting placed) (visitedText setting rest) := by
  rw [visitedText, List.filter_append, List.map_append, joined_append]
  rfl

theorem visitedText_singleton (placed : Placed) (h : placed.shown setting) :
    visitedText setting [placed] = setting.partText placed.part := by
  rw [visitedText, List.filter_cons_of_pos h]
  exact join_empty _

/-- Behind the head of a conditional that hides its body no part is shown. -/
theorem filter_shown_of_hidden {guard : Guard} (hguard : ¬ setting.shows guard) {body : Node} {around : List Guard} :
    (body.parts (around ++ [guard])).filter (Placed.shown setting) = [] := by
  rw [List.filter_eq_nil_iff]
  intro placed hplaced hshown
  apply hguard
  exact List.all_eq_true.1 hshown guard (subset_around body _ placed hplaced (by simp))

/-- The text of a node inside of conditionals that show it. -/
theorem render_eq_visitedText (node : Node) (around : List Guard) (h : around.all setting.shows) :
    node.render setting = visitedText setting (node.parts around) := by
  induction node generalizing around with
  | literal text => exact (visitedText_singleton setting ⟨around, .literal text⟩ h).symm
  | field ref =>
    rw [render, ← setting.partText_field]
    exact (visitedText_singleton setting ⟨around, .field ref⟩ h).symm
  | wrap scope span =>
    rw [render, ← setting.partText_wrap scope span]
    exact (visitedText_singleton setting ⟨around, .wrap scope span⟩ h).symm
  | list items ih =>
    rw [render, parts]
    induction items with
    | nil => rfl
    | cons node rest ihrest =>
      obtain ⟨hnode, hrest⟩ := List.forall_mem_cons.1 ih
      rw [renderItems_cons, partsIn, visitedText_append, hnode around h, ihrest hrest]
  | conditional guard body ih =>
    have hhead : visitedText setting [⟨around, .head guard⟩] = .ok "" :=
      visitedText_singleton setting ⟨around, .head guard⟩ h
    have hsplit : (conditional guard body).parts around = [⟨around, .head guard⟩] ++ body.parts (around ++ [guard]) :=
      rfl
    rw [hsplit, visitedText_append, hhead, empty_join, render]
    by_cases hguard : setting.shows guard = true
    · rw [if_pos hguard]
      apply ih
      simpa [hguard] using h
    · rw [if_neg hguard]
      rw [visitedText, filter_shown_of_hidden setting hguard]
      rfl

/-- A message is the texts of the parts that are shown. -/
theorem render_eq_joined (node : Node) :
    node.render setting = joined ((node.visited setting).map fun p => setting.partText p.part) :=
  node.render_eq_visitedText setting [] rfl

end Node

/-! ### Checking -/

/-- Whether a check looks at what the part asks for: every conditional around it is resolved and shows its body. -/
def Placed.active (level : Level) (setting : Setting) (placed : Placed) : Bool :=
  placed.around.all fun guard => level.resolves guard.scope && setting.shows guard

/-- The problem that a check finds in the text of a part. -/
def Part.syntaxProblem? : Part → Option Located
  | .field ref => ref.syntaxProblem?.map (⟨·, ref.span⟩)
  | .head guard =>
    if (Condition.ofText? guard.condition).isNone then some ⟨.unknownCondition guard.condition, guard.span⟩ else none
  | _ => none

/-- The problem of a part that does not get what it asks for. -/
def Setting.missingProblem? (setting : Setting) : Part → Option Located
  | .field ref => (ref.missingProblem? (setting.params ref.scope)).map (⟨·, ref.span⟩)
  | .wrap scope span => (setting.wrapProblem? scope).map (⟨·, span⟩)
  | _ => none

/-- The parameter map that a directive reads. -/
def Part.scope? : Part → Option Scope
  | .field ref => some ref.scope
  | .wrap scope _ => some scope
  | _ => none

/-- The problem that a check at a level finds in a part. -/
def Placed.problem? (level : Level) (setting : Setting) (placed : Placed) : Option Located :=
  placed.part.syntaxProblem?.or
    (if placed.active level setting && placed.part.scope?.any level.resolves then setting.missingProblem? placed.part
      else none)

namespace Node

variable (level : Level) (setting : Setting)

/-- The outcome of a check that finds the given problem, or none. -/
def outcome : Option Located → Except Located Unit
  | some found => .error found
  | none => .ok ()

theorem outcome_or (a b : Option Located) : outcome (a.or b) = (do outcome a; outcome b) := by
  cases a <;> rfl

theorem outcome_map_eq_check (problem : Option Problem) (span : Span) :
    outcome (problem.map (⟨·, span⟩)) = Located.check span problem := by
  cases problem <;> rfl

theorem findSome?_problem?_singleton (placed : Placed) :
    [placed].findSome? (Placed.problem? level setting) = placed.problem? level setting := by
  rw [List.findSome?_cons]
  cases placed.problem? level setting <;> rfl

theorem outcome_problem? (placed : Placed) :
    outcome (placed.problem? level setting) = (do
      outcome placed.part.syntaxProblem?
      if placed.active level setting && placed.part.scope?.any level.resolves then
        outcome (setting.missingProblem? placed.part)) := by
  rw [Placed.problem?, outcome_or]
  congr 1
  funext _
  split <;> rfl

/-- A check of a node inside of conditionals finds the first problem of its parts. -/
theorem check_eq_outcome (node : Node) (around : List Guard) :
    node.check level setting (around.all fun guard => level.resolves guard.scope && setting.shows guard) =
      outcome ((node.parts around).findSome? (Placed.problem? level setting)) := by
  induction node generalizing around with
  | literal text =>
    have hliteral : Placed.problem? level setting ⟨around, .literal text⟩ = none := by
      simp [Placed.problem?, Part.syntaxProblem?, Part.scope?]
    rw [parts, findSome?_problem?_singleton, hliteral]
    rfl
  | field ref =>
    rw [parts, findSome?_problem?_singleton, outcome_problem?, check, Part.syntaxProblem?, Setting.missingProblem?,
      outcome_map_eq_check, outcome_map_eq_check]
    rfl
  | wrap scope span =>
    rw [parts, findSome?_problem?_singleton, outcome_problem?, check, Setting.missingProblem?, outcome_map_eq_check]
    rfl
  | list items ih =>
    rw [check, parts]
    induction items with
    | nil => rfl
    | cons node rest ihrest =>
      obtain ⟨hnode, hrest⟩ := List.forall_mem_cons.1 ih
      rw [checkItems, partsIn, List.findSome?_append, outcome_or, hnode around, ihrest hrest]
  | conditional guard body ih =>
    have hhead : Placed.problem? level setting ⟨around, .head guard⟩ = Part.syntaxProblem? (.head guard) := by
      simp [Placed.problem?, Part.scope?]
    have hbody := ih (around ++ [guard])
    rw [check, parts, List.findSome?_cons, hhead, Part.syntaxProblem?]
    cases hcondition : Condition.ofText? guard.condition with
    | none => rfl
    | some condition =>
      rw [List.all_append] at hbody
      simpa [Bool.and_assoc] using hbody

/-- A check succeeds if no part has a problem. -/
theorem check_eq_ok_iff (node : Node) :
    node.check level setting true = .ok () ↔ ∀ placed ∈ node.parts [], placed.problem? level setting = none := by
  rw [← List.findSome?_eq_none_iff]
  have h := check_eq_outcome level setting node []
  rw [List.all_nil] at h
  rw [h]
  cases (node.parts []).findSome? (Placed.problem? level setting) <;> simp [outcome]

end Node

end Mishap
