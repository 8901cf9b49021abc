import Mishap.Proofs.Fault.History

/-!
The data that a fault carries, read off its history: every layer lays its own data over that of the layers below it, or
under, or takes a name out. Main statement: the fields of a fault, which are the parameters of the first annotated link
of its chain, are this view, and so are the queries of one field and projections.
-/

namespace Mishap

namespace Layer

/-- The view of a layer above one that has the given view. -/
def view (below : Params) : Layer → Params
  | wrapping w => Flag.stacked w.draft.flags w.draft.params below
  | deleteField name => below.erase name
  | foreign _ => below
  | box => below
  | unbox => below
  | clone => below

def viewAll : List (Identity × Layer) → Params → Params
  | [], bottom => bottom
  | (_, layer) :: rest, bottom => layer.view (viewAll rest bottom)

/-- Whether a layer takes a name out and no layer above it brings data of that name. -/
def Clears (name : String) : List (Identity × Layer) → Prop
  | [] => False
  | (_, .deleteField deleted) :: rest => deleted = name ∨ Clears name rest
  | (_, .wrapping w) :: rest => w.draft.params.get? name = none ∧ Clears name rest
  | _ :: rest => Clears name rest

end Layer

def History.view (h : History) : Params := Layer.viewAll h.layers h.origin.data

/-- Reads a map as a record, with the options that the flags ask for. -/
def Schema.project (schema : Schema) (flags : List Flag) (params : Params) : Attempt Record := do
  let options ← Attempt.ofFlags .project (Flag.projectOptions flags)
  Attempt.checkSchema .project schema
  let result := Attempt.ofData (schema.read options.missing params)
  if options.strict then result.insist .project else result

/-! ### Fields of a layer -/

namespace Layer

/-- What an operation does to the fields. -/
theorem fields_apply {layer : Layer} {id : Identity} {f g : Fault} (hf : f.Flat) (h : layer.apply id f = .ok g) :
    g.fields = layer.view f.fields := by
  cases layer with
  | foreign message =>
    cases h
    exact f.fields_foreign id message
  | wrapping w =>
    obtain ⟨handle, hhandle, rfl⟩ := Attempt.map_eq_ok_iff.1 h
    obtain ⟨hfault, -, hparams, -⟩ := Wrapping.apply_eq_ok hhandle
    rw [hfault, Fault.fields_annotate, hparams]
    rfl
  | deleteField name =>
    cases h
    rfl
  | box =>
    cases h
    exact f.fields_box
  | unbox =>
    cases h
    exact hf.fields_unbox
  | clone =>
    cases h
    exact f.fields_clone id

theorem fields_applyAll {layers : List (Identity × Layer)} {bottom f : Fault} (hbottom : bottom.Flat)
    (h : applyAll layers bottom = .ok f) : f.fields = viewAll layers bottom.fields := by
  induction layers generalizing f with
  | nil =>
    cases h
    rfl
  | cons entry rest ih =>
    obtain ⟨below, hbelow, h⟩ := Attempt.bind_eq_ok_iff.1 h
    rw [fields_apply (flat_applyAll hbottom hbelow) h, ih hbelow]
    rfl

/-- Every layer has been applied to what the layers below it made. -/
theorem exists_apply_of_applyAll {above : List (Identity × Layer)} {id : Identity} {layer : Layer}
    {rest : List (Identity × Layer)} {bottom f : Fault} (h : applyAll (above ++ (id, layer) :: rest) bottom = .ok f) :
    ∃ below g, applyAll rest bottom = .ok below ∧ layer.apply id below = .ok g := by
  induction above generalizing f with
  | nil =>
    obtain ⟨below, hbelow, h⟩ := Attempt.bind_eq_ok_iff.1 h
    exact ⟨below, f, hbelow, h⟩
  | cons entry above ih =>
    obtain ⟨below, hbelow, -⟩ := Attempt.bind_eq_ok_iff.1 h
    exact ih hbelow

theorem get?_stacked_eq_none {flags : List Flag} {new previous : Params} {name : String} (hnew : new.get? name = none)
    (hprevious : previous.get? name = none) : (Flag.stacked flags new previous).get? name = none := by
  rw [Flag.stacked]
  split <;> simp [Params.get?_atop, hnew, hprevious]

theorem get?_viewAll_of_clears {name : String} {layers : List (Identity × Layer)} (h : Clears name layers)
    (bottom : Params) : (viewAll layers bottom).get? name = none := by
  induction layers with
  | nil => exact h.elim
  | cons entry rest ih =>
    obtain ⟨id, layer⟩ := entry
    cases layer with
    | wrapping w => exact get?_stacked_eq_none h.1 (ih h.2)
    | deleteField deleted =>
      rw [viewAll, view, Params.get?_erase]
      split
      · rfl
      · next hne => exact ih (h.resolve_left fun heq => hne heq.symm)
    | _ => exact ih h

end Layer

namespace Origin

theorem fields_make {origin : Origin} {id : Identity} {f : Fault} (h : origin.make id = .ok f) :
    f.fields = origin.data := by
  rcases make_eq_ok h with ⟨-, hchain, hnote, -, hdata⟩ | ⟨a, rfl, -, hparams⟩
  · rw [Fault.fields_of_chain hchain hnote, hdata]
  · rw [Fault.fields_annotate, hparams]

end Origin

/-- Two names are added and one is taken out; what comes last goes under what is left. -/
def History.pruned : History where
  id := 0
  origin := .io (.ofKind .unexpectedEof)
  layers := [(5, .box),
    (4, .wrapping (.wrapParams "at %\x7bB\x7d" (.singleton "B" (.int 9)) [.preferPreviousData])),
    (3, .deleteField "A"), (2, .wrapping (.addParam "B" (.int 2))), (1, .wrapping (.addParam "A" (.int 1)))]

end Mishap
