import Mishap.Command.Inputs

/-!
What sources give. Main statement: loading succeeds exactly with the own map that holds under each name the value of the
last assignment to it, or else that of the file, and with the passed map of its own file, or else the own one.
-/

namespace Mishap

variable {load : String → Except CommandFault Params}

/-- The map of a file, or another one where no file is named. -/
def Sources.Loads (load : String → Except CommandFault Params) (path : Option String) (other params : Params) : Prop :=
  match path with
  | some path => load path = .ok params
  | none => params = other

/-- Texts that are all assignments, with the names and values that they assign. -/
def Assigns (texts : List String) (pairs : List (String × Value)) : Prop :=
  texts.map assignment? = pairs.map some

/-- The inputs that sources give. -/
structure Sources.Give (load : String → Except CommandFault Params) (sources : Sources) (inputs : Inputs) : Prop where
  own : ∃ base pairs, Loads load sources.params .empty base ∧ Assigns sources.assignments pairs ∧
    ∀ name, inputs.own.get? name = (pairs.reverse.lookup name).or (base.get? name)
  passed : Loads load sources.passed inputs.own inputs.passed
  cause : inputs.cause = sources.cause

namespace CommandFault

/-- A step that may fail and what follows it. -/
theorem bind_eq_ok_iff {α β : Type} {x : Except CommandFault α} {f : α → Except CommandFault β} {b : β} :
    x >>= f = .ok b ↔ ∃ a, x = .ok a ∧ f a = .ok b := by
  cases x <;> simp [bind, Except.bind]

end CommandFault

open CommandFault (bind_eq_ok_iff)

theorem assign_eq_ok_iff {base own : Params} {text : String} :
    assign base text = .ok own ↔ ∃ pair, assignment? text = some pair ∧ base.insert pair.1 pair.2 = own := by
  rw [assign.eq_def]
  cases assignment? text <;> simp

theorem assigns_cons_iff {text : String} {rest : List String} {pairs : List (String × Value)} :
    Assigns (text :: rest) pairs ↔
      ∃ pair more, assignment? text = some pair ∧ Assigns rest more ∧ pairs = pair :: more := by
  cases pairs <;> simp [Assigns]

/-- The last assignment to a name is the one that counts. -/
theorem get?_insert_assigned (base : Params) (pair : String × Value) (more : List (String × Value)) (name : String) :
    ((pair :: more).reverse.lookup name).or (base.get? name) =
      (more.reverse.lookup name).or ((base.insert pair.1 pair.2).get? name) := by
  rw [List.reverse_cons, List.lookup_append, Option.or_assoc, Params.get?_insert, List.lookup_cons, List.lookup_nil]
  by_cases h : name = pair.1
  · simp [h]
  · simp [h, beq_eq_false_iff_ne.2 h]

theorem foldlM_assign_eq_ok_iff {texts : List String} {base own : Params} :
    texts.foldlM assign base = .ok own ↔
      ∃ pairs, Assigns texts pairs ∧ ∀ name, own.get? name = (pairs.reverse.lookup name).or (base.get? name) := by
  induction texts generalizing base with
  | nil =>
    constructor
    · rintro ⟨⟩
      exact ⟨[], rfl, fun name => rfl⟩
    · rintro ⟨pairs, hpairs, hown⟩
      obtain rfl : pairs = [] := by simpa [Assigns] using hpairs
      exact congrArg Except.ok (Params.ext_get? fun name => (hown name).symm)
  | cons text rest ih =>
    rw [List.foldlM_cons, bind_eq_ok_iff]
    constructor
    · rintro ⟨next, hnext, hrest⟩
      obtain ⟨pair, htext, rfl⟩ := assign_eq_ok_iff.1 hnext
      obtain ⟨more, hmore, hown⟩ := ih.1 hrest
      refine ⟨pair :: more, assigns_cons_iff.2 ⟨pair, more, htext, hmore, rfl⟩, fun name => ?_⟩
      rw [hown, get?_insert_assigned]
    · rintro ⟨pairs, hpairs, hown⟩
      obtain ⟨pair, more, htext, hmore, rfl⟩ := assigns_cons_iff.1 hpairs
      refine ⟨base.insert pair.1 pair.2, assign_eq_ok_iff.2 ⟨pair, htext, rfl⟩, ih.2 ⟨more, hmore, fun name => ?_⟩⟩
      rw [hown, get?_insert_assigned]

/-- The map that a path stands for. -/
def Sources.loaded (load : String → Except CommandFault Params) (path : Option String) (other : Params) :
    Except CommandFault Params :=
  match path with
  | some path => load path
  | none => .ok other

theorem Sources.loads_iff {path : Option String} {other params : Params} :
    Loads load path other params ↔ loaded load path other = .ok params := by
  cases path with
  | some path => rfl
  | none => simp [Loads, loaded, eq_comm]

theorem Inputs.ofSources_eq (load : String → Except CommandFault Params) (sources : Sources) :
    Inputs.ofSources load sources =
      (Sources.loaded load sources.params .empty >>= fun base => sources.assignments.foldlM assign base >>= fun own =>
        Sources.loaded load sources.passed own >>= fun passed => .ok ⟨own, passed, sources.cause⟩) := by
  obtain ⟨params, assignments, passed, cause⟩ := sources
  cases params <;> cases passed <;> rfl

/-- Loading succeeds exactly with the inputs that the sources give. -/
theorem Inputs.ofSources_eq_ok_iff {sources : Sources} {inputs : Inputs} :
    Inputs.ofSources load sources = .ok inputs ↔ sources.Give load inputs := by
  rw [ofSources_eq]
  simp only [bind_eq_ok_iff, foldlM_assign_eq_ok_iff, ← Sources.loads_iff]
  constructor
  · rintro ⟨base, hbase, own, ⟨pairs, hpairs, hown⟩, passed, hpassed, ⟨⟩⟩
    exact ⟨⟨base, pairs, hbase, hpairs, hown⟩, hpassed, rfl⟩
  · rintro ⟨⟨base, pairs, hbase, hpairs, hown⟩, hpassed, hcause⟩
    exact ⟨base, hbase, inputs.own, ⟨pairs, hpairs, hown⟩, inputs.passed, hpassed, by rw [← hcause]⟩

end Mishap
