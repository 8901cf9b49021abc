import Mishap.Proofs.Template.Positions
import Mishap.Proofs.Template.Resolution
import Mishap.Proofs.Template.RoundTrip

/-!
The levels of checking. Every level has the rules for the text of directives; the later ones also ask whether directives
get what they ask for, of the scopes that they resolve. Main statement: each level reports the violation of its rules
that comes first in the format string, and what violates the rules of a level violates those of every later one.
-/

namespace Mishap

/-! ### Rules -/

/-- The rules for the text of a directive, each with the problem that is reported where it is broken. -/
inductive Part.Misspelt : Part → Problem → Prop
  | verb {ref : FieldRef} {verb : String} (h : ref.verb = some verb) (hpercent : '%' ∈ verb.toList) :
    Misspelt (.field ref) (.verbContainsPercent verb)
  | name {ref : FieldRef} (hverb : ∀ verb ∈ ref.verb, '%' ∉ verb.toList) (hselector : isMapSelector ref.name = false)
      (hname : isFieldName ref.name = false) : Misspelt (.field ref) (.invalidFieldName ref.name)
  | condition {guard : Guard} (h : Condition.ofText? guard.condition = none) :
    Misspelt (.head guard) (.unknownCondition guard.condition)

/-- What a directive asks for and does not get, with the problem that is reported then. -/
inductive Setting.Lacks (setting : Setting) : Part → Problem → Prop
  | ownField {ref : FieldRef} (hscope : ref.scope = .own) (hselector : isMapSelector ref.name = false)
      (h : setting.own.get? ref.name = none) : Lacks setting (.field ref) (.missingOwnField ref.name)
  | passedField {ref : FieldRef} (hscope : ref.scope = .passed) (hselector : isMapSelector ref.name = false)
      (h : setting.passed.get? ref.name = none) : Lacks setting (.field ref) (.missingPassedField ref.name)
  | ownWrap {span : Span} (h : setting.cause = none) : Lacks setting (.wrap .own span) .wrapWithoutCause
  | passedWrap {span : Span} (h : ∀ voice ∈ setting.cause, voice.interpolate = none) :
    Lacks setting (.wrap .passed span) .causeNotInterpolatable

/-- Whether the condition of a conditional is known and met. -/
def Setting.holds (setting : Setting) (guard : Guard) : Bool :=
  (Condition.ofText? guard.condition).any (·.holds (setting.params guard.scope))

/-- A directive breaks a rule of a level: one for its text, or, inside of conditionals that the level resolves and that
hold, it does not get what it asks for of a scope that the level resolves. -/
inductive Placed.Violates (level : Level) (setting : Setting) (placed : Placed) (problem : Problem) : Prop
  | text (h : placed.part.Misspelt problem)
  | answer (hspelt : ∀ other, ¬ placed.part.Misspelt other)
      (hscope : ∀ scope ∈ placed.part.scope?, level.resolves scope)
      (haround : ∀ guard ∈ placed.around, level.resolves guard.scope ∧ setting.holds guard)
      (h : setting.Lacks placed.part problem)

/-- The problem is that of a directive which violates the rules of a level, and no such directive begins before it. -/
def Node.FirstViolation (level : Level) (setting : Setting) (node : Node) (found : Located) : Prop :=
  ∃ placed ∈ node.parts [], placed.part.span? = some found.span ∧ placed.Violates level setting found.problem ∧
    ∀ other ∈ node.parts [], ∀ problem span, other.Violates level setting problem → other.part.span? = some span →
      found.span.start ≤ span.start

/-! ### Order of the levels -/

/-- The place of a stage among the stages. -/
def Stage.rank : Stage → Nat
  | parse => 0
  | syntactic => 1
  | ownParameters => 2
  | passedParameters => 3

/-- The stage that asks whether directives of a scope get what they ask for. -/
def Scope.stage : Scope → Stage
  | own => .ownParameters
  | passed => .passedParameters

namespace Level

/-- The last stage whose problems a level finds. -/
def stage : Level → Stage
  | syntactic => .syntactic
  | own => .ownParameters
  | passed => .passedParameters

instance : LE Level := ⟨fun low high => low.stage.rank ≤ high.stage.rank⟩

theorem resolves_mono {low high : Level} (hle : low ≤ high) {scope : Scope} (h : low.resolves scope) :
    high.resolves scope := by
  have hrank : low.stage.rank ≤ high.stage.rank := hle
  cases low <;> cases high <;> cases scope <;> simp_all [resolves, stage, Stage.rank]

theorem rank_le_of_resolves {level : Level} {scope : Scope} (h : level.resolves scope) :
    scope.stage.rank ≤ level.stage.rank := by
  cases level <;> cases scope <;> first | decide | cases h

theorem rank_syntactic_le (level : Level) : Stage.syntactic.rank ≤ level.stage.rank := by
  cases level <;> decide

/-- What there is to resolve at a level. -/
def setting (level : Level) (s : Setting) : Setting :=
  match level with
  | syntactic => ⟨.empty, .empty, none⟩
  | own => ⟨s.own, .empty, s.cause⟩
  | passed => s

theorem setting_of_resolves {level : Level} {scope : Scope} (h : level.resolves scope) (s : Setting) :
    (level.setting s).params scope = s.params scope ∧ (level.setting s).cause = s.cause := by
  cases level <;> cases scope <;> simp_all [resolves, setting, Setting.params]

end Level

/-- The check of a level. -/
def Template.verifyAt (t : Template) (s : Setting) : Level → Except TemplateError Unit
  | .syntactic => t.verifySyntax
  | .own => t.verifyOwn s.own s.cause
  | .passed => t.verifyPassed s.own s.passed s.cause

theorem Template.verifyAt_eq (t : Template) (s : Setting) (level : Level) :
    t.verifyAt s level = t.verify level (level.setting s) := by
  cases level <;> rfl

/-! ### Problems and rules -/

theorem Part.misspelt_field_iff {ref : FieldRef} {problem : Problem} :
    (field ref).Misspelt problem ↔
      (∃ verb, ref.verb = some verb ∧ '%' ∈ verb.toList ∧ .verbContainsPercent verb = problem) ∨
        (∀ verb ∈ ref.verb, '%' ∉ verb.toList) ∧ isMapSelector ref.name = false ∧ isFieldName ref.name = false ∧
          .invalidFieldName ref.name = problem := by
  constructor
  · rintro (⟨h, hpercent⟩ | ⟨hverb, hselector, hname⟩)
    · exact .inl ⟨_, h, hpercent, rfl⟩
    · exact .inr ⟨hverb, hselector, hname, rfl⟩
  · rintro (⟨verb, h, hpercent, rfl⟩ | ⟨hverb, hselector, hname, rfl⟩)
    · exact .verb h hpercent
    · exact .name hverb hselector hname

theorem FieldRef.syntaxProblem?_eq_some_iff {ref : FieldRef} {problem : Problem} :
    ref.syntaxProblem? = some problem ↔ (Part.field ref).Misspelt problem := by
  rw [Part.misspelt_field_iff, syntaxProblem?]
  obtain ⟨scope, _ | verb, name, span⟩ := ref
  · cases isMapSelector name <;> cases isFieldName name <;> simp
  · by_cases hpercent : '%' ∈ verb.toList
    · simp [Option.filter, hpercent]
    · cases isMapSelector name <;> cases isFieldName name <;> simp [Option.filter, hpercent]

theorem Part.syntaxProblem?_eq_some_iff {part : Part} {found : Located} :
    part.syntaxProblem? = some found ↔ part.Misspelt found.problem ∧ part.span? = some found.span := by
  obtain ⟨problem, span⟩ := found
  cases part with
  | literal text => simp [syntaxProblem?, span?]
  | wrap scope other =>
    constructor
    · rintro ⟨⟩
    · rintro ⟨⟨⟩, -⟩
  | field ref =>
    rw [syntaxProblem?, Option.map_eq_some_iff, span?]
    simp only [FieldRef.syntaxProblem?_eq_some_iff, Located.mk.injEq, Option.some.injEq]
    constructor
    · rintro ⟨_, h, rfl, rfl⟩
      exact ⟨h, rfl⟩
    · rintro ⟨h, rfl⟩
      exact ⟨problem, h, rfl, rfl⟩
  | head guard =>
    rw [syntaxProblem?, span?]
    constructor
    · intro h
      obtain ⟨hcondition, hfound⟩ := Option.ite_none_right_eq_some.1 h
      cases hfound
      exact ⟨.condition (Option.isNone_iff_eq_none.1 hcondition), rfl⟩
    · rintro ⟨h, ⟨⟩⟩
      cases h with
      | condition hcondition => rw [hcondition, Option.isNone_none, if_pos rfl]

theorem FieldRef.missingProblem?_eq_some_iff {ref : FieldRef} {setting : Setting} {problem : Problem} :
    ref.missingProblem? (setting.params ref.scope) = some problem ↔ setting.Lacks (.field ref) problem := by
  rw [missingProblem?, Params.contains]
  constructor
  · intro h
    obtain ⟨hmissing, hproblem⟩ := Option.ite_none_left_eq_some.1 h
    simp only [Bool.or_eq_true, not_or, Bool.not_eq_true, Option.isSome_eq_false_iff, Option.isNone_iff_eq_none]
      at hmissing
    obtain ⟨hselector, hnone⟩ := hmissing
    cases hscope : ref.scope with
    | own =>
      rw [hscope] at hproblem hnone
      cases hproblem
      exact .ownField hscope hselector hnone
    | passed =>
      rw [hscope] at hproblem hnone
      cases hproblem
      exact .passedField hscope hselector hnone
  · rintro (⟨hscope, hselector, h⟩ | ⟨hscope, hselector, h⟩)
    all_goals simp [hscope, hselector, Setting.params, h]

theorem Setting.wrapProblem?_eq_some_iff {setting : Setting} {scope : Scope} (span : Span) {problem : Problem} :
    setting.wrapProblem? scope = some problem ↔ setting.Lacks (.wrap scope span) problem := by
  cases scope with
  | own =>
    rw [wrapProblem?, Option.ite_none_right_eq_some, Option.isNone_iff_eq_none]
    constructor
    · rintro ⟨hcause, ⟨⟩⟩
      exact .ownWrap hcause
    · intro h
      cases h with
      | ownWrap hcause => exact ⟨hcause, rfl⟩
  | passed =>
    rw [wrapProblem?, Option.ite_none_left_eq_some, Bool.not_eq_true, Option.any_eq_false]
    simp only [Voice.isInterpolatable, Option.isSome_eq_false_iff, Option.isNone_iff_eq_none]
    constructor
    · rintro ⟨hcause, ⟨⟩⟩
      exact .passedWrap hcause
    · intro h
      cases h with
      | passedWrap hcause => exact ⟨hcause, rfl⟩

theorem Setting.missingProblem?_eq_some_iff {setting : Setting} {part : Part} {found : Located} :
    setting.missingProblem? part = some found ↔
      setting.Lacks part found.problem ∧ part.span? = some found.span := by
  obtain ⟨problem, span⟩ := found
  cases part with
  | literal text => simp [missingProblem?, Part.span?]
  | head guard =>
    constructor
    · rintro ⟨⟩
    · rintro ⟨⟨⟩, -⟩
  | field ref =>
    rw [missingProblem?, Option.map_eq_some_iff, Part.span?]
    simp only [FieldRef.missingProblem?_eq_some_iff, Located.mk.injEq, Option.some.injEq]
    constructor
    · rintro ⟨_, h, rfl, rfl⟩
      exact ⟨h, rfl⟩
    · rintro ⟨h, rfl⟩
      exact ⟨problem, h, rfl, rfl⟩
  | wrap scope other =>
    rw [missingProblem?, Option.map_eq_some_iff, Part.span?]
    simp only [wrapProblem?_eq_some_iff other, Located.mk.injEq, Option.some.injEq]
    constructor
    · rintro ⟨_, h, rfl, rfl⟩
      exact ⟨h, rfl⟩
    · rintro ⟨h, rfl⟩
      exact ⟨problem, h, rfl, rfl⟩

/-- What a directive lacks is found at the stage of its scope. -/
theorem Setting.Lacks.exists_scope {setting : Setting} {part : Part} {problem : Problem}
    (h : setting.Lacks part problem) : ∃ scope, part.scope? = some scope ∧ problem.stage = scope.stage := by
  cases h with
  | ownField hscope => exact ⟨.own, congrArg some hscope, rfl⟩
  | passedField hscope => exact ⟨.passed, congrArg some hscope, rfl⟩
  | ownWrap => exact ⟨.own, rfl, rfl⟩
  | passedWrap => exact ⟨.passed, rfl, rfl⟩

theorem Setting.Lacks.congr {s t : Setting} {part : Part} {problem : Problem} (h : s.Lacks part problem) {scope : Scope}
    (hscope : part.scope? = some scope) (hparams : s.params scope = t.params scope) (hcause : s.cause = t.cause) :
    t.Lacks part problem := by
  obtain rfl | rfl : scope = .own ∨ scope = .passed := by cases scope <;> simp
  · have hown : s.own = t.own := hparams
    cases h with
    | ownField href hselector hnone => exact .ownField href hselector (hown ▸ hnone)
    | passedField href => simp [Part.scope?, href] at hscope
    | ownWrap hnone => exact .ownWrap (hcause ▸ hnone)
    | passedWrap => cases hscope
  · have hpassed : s.passed = t.passed := hparams
    cases h with
    | ownField href => simp [Part.scope?, href] at hscope
    | passedField href hselector hnone => exact .passedField href hselector (hpassed ▸ hnone)
    | ownWrap => cases hscope
    | passedWrap hnone => exact .passedWrap (hcause ▸ hnone)

theorem Part.Misspelt.stage_eq {part : Part} {problem : Problem} (h : part.Misspelt problem) :
    problem.stage = .syntactic := by
  cases h <;> rfl

namespace Placed

variable (level : Level) (setting : Setting) (placed : Placed)

/-- Whether a level resolves every conditional around the part, and each of them holds. -/
def settled : Bool := placed.around.all fun guard => level.resolves guard.scope && setting.holds guard

/-- The violation of a part, if it has one. -/
def violation? : Option Located :=
  placed.part.syntaxProblem?.or
    (if placed.settled level setting && placed.part.scope?.any level.resolves then setting.missingProblem? placed.part
      else none)

variable {level setting placed}

theorem violation?_eq_some_iff {found : Located} :
    placed.violation? level setting = some found ↔
      placed.Violates level setting found.problem ∧ placed.part.span? = some found.span := by
  rw [violation?, Option.or_eq_some_iff, Part.syntaxProblem?_eq_some_iff]
  constructor
  · rintro (⟨hmisspelt, hspan⟩ | ⟨hspelt, hmissing⟩)
    · exact ⟨.text hmisspelt, hspan⟩
    · obtain ⟨hactive, hmissing⟩ := Option.ite_none_right_eq_some.1 hmissing
      rw [settled, Bool.and_eq_true, List.all_eq_true, Option.any_eq_true] at hactive
      obtain ⟨haround, scope, hscope, hresolves⟩ := hactive
      obtain ⟨hlacks, hspan⟩ := setting.missingProblem?_eq_some_iff.1 hmissing
      refine ⟨.answer (fun other hother => ?_) ?_ ?_ hlacks, hspan⟩
      · have hsome : placed.part.syntaxProblem? = some ⟨other, found.span⟩ :=
          Part.syntaxProblem?_eq_some_iff.2 ⟨hother, hspan⟩
        rw [hspelt] at hsome
        cases hsome
      · simpa [hscope] using hresolves
      · intro guard hguard
        simpa using haround guard hguard
  · rintro ⟨hmisspelt | ⟨hspelt, hscope, haround, hlacks⟩, hspan⟩
    · exact .inl ⟨hmisspelt, hspan⟩
    · refine .inr ⟨?_, ?_⟩
      · rw [Option.eq_none_iff_forall_ne_some]
        intro other hother
        exact hspelt other.problem (Part.syntaxProblem?_eq_some_iff.1 hother).1
      · obtain ⟨scope, hsome, -⟩ := hlacks.exists_scope
        have hsettled : placed.settled level setting := by
          rw [settled, List.all_eq_true]
          intro guard hguard
          simpa using haround guard hguard
        have hresolves : level.resolves scope := hscope scope hsome
        rw [hsettled, hsome, Option.any_some, hresolves, Bool.and_self, if_pos rfl]
        exact setting.missingProblem?_eq_some_iff.2 ⟨hlacks, hspan⟩

theorem Violates.exists_span {problem : Problem} (h : placed.Violates level setting problem) :
    ∃ span, placed.part.span? = some span := by
  obtain ⟨around, part⟩ := placed
  rcases h with hmisspelt | ⟨-, -, -, hlacks⟩
  · cases hmisspelt <;> exact ⟨_, rfl⟩
  · cases hlacks <;> exact ⟨_, rfl⟩

theorem violation?_eq_none_iff :
    placed.violation? level setting = none ↔ ∀ problem, ¬ placed.Violates level setting problem := by
  rw [Option.eq_none_iff_forall_ne_some]
  constructor
  · intro h problem hviolates
    obtain ⟨span, hspan⟩ := hviolates.exists_span
    exact h ⟨problem, span⟩ (violation?_eq_some_iff.2 ⟨hviolates, hspan⟩)
  · intro h found hfound
    exact h found.problem (violation?_eq_some_iff.1 hfound).1

/-- What violates the rules of a level violates those of every later one. -/
theorem Violates.mono {low high : Level} (hle : low ≤ high) {problem : Problem}
    (h : placed.Violates low setting problem) : placed.Violates high setting problem := by
  rcases h with hmisspelt | ⟨hspelt, hscope, haround, hlacks⟩
  · exact .text hmisspelt
  · refine .answer hspelt ?_ ?_ hlacks
    · intro scope hsome
      exact Level.resolves_mono hle (hscope scope hsome)
    · intro guard hguard
      exact ⟨Level.resolves_mono hle (haround guard hguard).1, (haround guard hguard).2⟩

/-- A level finds problems of its own stage and of the earlier ones. -/
theorem Violates.rank_le {problem : Problem} (h : placed.Violates level setting problem) :
    problem.stage.rank ≤ level.stage.rank := by
  rcases h with hmisspelt | ⟨-, hscope, -, hlacks⟩
  · rw [hmisspelt.stage_eq]
    exact level.rank_syntactic_le
  · obtain ⟨scope, hsome, hstage⟩ := hlacks.exists_scope
    rw [hstage]
    exact Level.rank_le_of_resolves (hscope scope hsome)

/-- The rules of a level look only at what the level resolves. -/
theorem Violates.congr {s t : Setting}
    (h : ∀ scope, level.resolves scope → s.params scope = t.params scope ∧ s.cause = t.cause) {problem : Problem}
    (hviolates : placed.Violates level s problem) : placed.Violates level t problem := by
  rcases hviolates with hmisspelt | ⟨hspelt, hscope, haround, hlacks⟩
  · exact .text hmisspelt
  · obtain ⟨scope, hsome, -⟩ := hlacks.exists_scope
    obtain ⟨hparams, hcause⟩ := h scope (hscope scope hsome)
    refine .answer hspelt hscope ?_ (hlacks.congr hsome hparams hcause)
    intro guard hguard
    obtain ⟨hresolves, hholds⟩ := haround guard hguard
    rw [Setting.holds, (h guard.scope hresolves).1] at hholds
    exact ⟨hresolves, hholds⟩

theorem violates_setting_iff {s : Setting} {problem : Problem} :
    placed.Violates level (level.setting s) problem ↔ placed.Violates level s problem := by
  constructor
  · intro h
    exact h.congr fun scope hresolves => Level.setting_of_resolves hresolves s
  · intro h
    refine h.congr fun scope hresolves => ?_
    obtain ⟨hparams, hcause⟩ := Level.setting_of_resolves hresolves s
    exact ⟨hparams.symm, hcause.symm⟩

end Placed

/-! ### Checks and violations -/

/-- A conditional as a format string without a problem has it, of a known condition. -/
def Guard.Plain (guard : Guard) : Prop := guard.forced = false ∧ (Condition.ofText? guard.condition).isSome

theorem Guard.Plain.shows_eq {guard : Guard} (h : guard.Plain) (setting : Setting) :
    setting.shows guard = setting.holds guard := by
  obtain ⟨condition, hcondition⟩ := Option.isSome_iff_exists.1 h.2
  rw [Setting.shows, Setting.holds, h.1, hcondition]
  rfl

namespace Node

variable (level : Level) (setting : Setting)

theorem problem?_eq_violation? {placed : Placed} (h : ∀ guard ∈ placed.around, guard.Plain) :
    placed.problem? level setting = placed.violation? level setting := by
  have hactive : placed.active level setting = placed.settled level setting := by
    rw [Bool.eq_iff_iff, Placed.active, Placed.settled, List.all_eq_true, List.all_eq_true]
    apply forall₂_congr
    intro guard hguard
    rw [(h guard hguard).shows_eq]
  rw [Placed.problem?, Placed.violation?, hactive]

/-- A check finds the first violation: behind the head of an unknown conditional it looks no further. -/
theorem findSome?_problem?_eq {node : Node} (hworded : node.Everywhere Worded) {around : List Guard}
    (haround : ∀ guard ∈ around, guard.Plain) :
    (node.parts around).findSome? (Placed.problem? level setting) =
      (node.parts around).findSome? (Placed.violation? level setting) := by
  induction node generalizing around with
  | list items ih =>
    have hitems := (everywhere_list.1 hworded).2
    rw [parts]
    clear hworded
    induction items with
    | nil => rfl
    | cons node rest ihrest =>
      obtain ⟨hnode, hrest⟩ := List.forall_mem_cons.1 ih
      obtain ⟨hnodeWorded, hrestWorded⟩ := List.forall_mem_cons.1 hitems
      rw [partsIn, List.findSome?_append, List.findSome?_append, hnode hnodeWorded haround,
        ihrest hrest hrestWorded]
  | conditional guard body ih =>
    have hhead : Placed.problem? level setting ⟨around, .head guard⟩ =
        Placed.violation? level setting ⟨around, .head guard⟩ :=
      problem?_eq_violation? level setting haround
    rw [parts, List.findSome?_cons, List.findSome?_cons, hhead]
    cases hcondition : Condition.ofText? guard.condition with
    | none =>
      -- the head is a violation itself, so that nothing behind it counts
      have hviolation : Placed.violation? level setting ⟨around, .head guard⟩ =
          some ⟨.unknownCondition guard.condition, guard.span⟩ := by
        rw [Placed.violation?_eq_some_iff]
        exact ⟨.text (.condition hcondition), rfl⟩
      rw [hviolation]
    | some condition =>
      have hplain : guard.Plain := ⟨hworded.1.2, by rw [hcondition]; rfl⟩
      have hbody : ∀ other ∈ around ++ [guard], other.Plain := by
        intro other hother
        rcases List.mem_append.1 hother with hother | hother
        · exact haround other hother
        · rw [List.mem_singleton.1 hother]
          exact hplain
      rw [ih hworded.2 hbody]
  | _ =>
    rw [parts, List.findSome?_singleton, List.findSome?_singleton]
    exact problem?_eq_violation? level setting haround

/-- A check finds the first violation in source order, if there is one. -/
theorem check_eq_violation {node : Node} (hworded : node.Everywhere Worded) :
    node.check level setting true = outcome ((node.parts []).findSome? (Placed.violation? level setting)) := by
  have hcheck := check_eq_outcome level setting node []
  rw [List.all_nil] at hcheck
  rw [hcheck, findSome?_problem?_eq level setting hworded (by simp)]

/-- Of parts that begin one behind the other, the first that violates a rule begins before the others. -/
theorem firstViolation_of_findSome? {node : Node} (hstarts : node.starts.Pairwise (· < ·)) {found : Located}
    (h : (node.parts []).findSome? (Placed.violation? level setting) = some found) :
    node.FirstViolation level setting found := by
  obtain ⟨before, placed, after, hparts, hfound, hbefore⟩ := List.findSome?_eq_some_iff.1 h
  obtain ⟨hviolates, hspan⟩ := Placed.violation?_eq_some_iff.1 hfound
  refine ⟨placed, by simp [hparts], hspan, hviolates, ?_⟩
  intro other hother problem span hotherViolates hotherSpan
  rw [starts, List.pairwise_filterMap, hparts] at hstarts
  have hafter := (List.pairwise_cons.1 (List.pairwise_append.1 hstarts).2.1).1
  rw [hparts, List.mem_append, List.mem_cons] at hother
  rcases hother with hother | rfl | hother
  · exact absurd hotherViolates (Placed.violation?_eq_none_iff.1 (hbefore other hother) problem)
  · obtain rfl : found.span = span := Option.some.inj (hspan.symm.trans hotherSpan)
    exact le_rfl
  · have hlt := hafter other hother found.span.start (by rw [Part.start?, hspan]; rfl) span.start
      (by rw [Part.start?, hotherSpan]; rfl)
    exact hlt.le

end Node

namespace Template

/-- The problem of a malformed format string is one of reading. -/
theorem stage_of_error {format : String} {error : TemplateError} (h : (ofFormat format).error? = some error) :
    error.stage = .parse := by
  obtain ⟨before, t, after, place, hbreaks⟩ := Grammar.exists_breaksAt h
  rw [hbreaks.error?_eq] at h
  obtain rfl := Option.some.inj h
  obtain ⟨opens, nodes, pending⟩ := place
  obtain ⟨kind, span⟩ := t
  rw [TemplateError.stage]
  cases pending with
  | none => rcases kind with _ | _ | _ | m <;> first | rfl | (cases m <;> rfl)
  | some pending =>
    obtain ⟨header, start⟩ := pending
    cases header <;> rfl

variable {format : String} (s : Setting) (level : Level)

theorem verifyAt_of_error {error : TemplateError} (h : (ofFormat format).error? = some error) :
    (ofFormat format).verifyAt s level = .error error := by
  rw [verifyAt_eq, verify, h]

/-- A level reports the first violation of its rules. -/
theorem verifyAt_of_no_error (h : (ofFormat format).error? = none) :
    (ofFormat format).verifyAt s level =
      match ((ofFormat format).root.parts []).findSome? (Placed.violation? level (level.setting s)) with
      | none => .ok ()
      | some found => .error ⟨found.problem, format, found.span⟩ := by
  have hworded : (ofFormat format).root.Everywhere Node.Worded := (Grammar.canonical_root h).imp fun _ hnode => hnode.2
  rw [verifyAt_eq, verify, h]
  simp only [Node.check_eq_violation level (level.setting s) hworded]
  cases ((ofFormat format).root.parts []).findSome? (Placed.violation? level (level.setting s)) <;> rfl

theorem verifyAt_eq_ok_iff (h : (ofFormat format).error? = none) :
    (ofFormat format).verifyAt s level = .ok () ↔
      ∀ placed ∈ (ofFormat format).root.parts [], ∀ problem, ¬ placed.Violates level s problem := by
  simp only [← Placed.violates_setting_iff (s := s), ← Placed.violation?_eq_none_iff]
  rw [← List.findSome?_eq_none_iff, verifyAt_of_no_error s level h]
  cases ((ofFormat format).root.parts []).findSome? (Placed.violation? level (level.setting s)) <;> simp

theorem firstViolation_of_verifyAt (h : (ofFormat format).error? = none) {error : TemplateError}
    (herror : (ofFormat format).verifyAt s level = .error error) :
    error.format = format ∧ (ofFormat format).root.FirstViolation level s ⟨error.problem, error.span⟩ := by
  rw [verifyAt_of_no_error s level h] at herror
  cases hfound : ((ofFormat format).root.parts []).findSome? (Placed.violation? level (level.setting s)) with
  | none =>
    rw [hfound] at herror
    cases herror
  | some found =>
    rw [hfound] at herror
    cases herror
    -- the check sees only what the level resolves, which is all that its rules look at
    have hfirst := Node.firstViolation_of_findSome? level (level.setting s) (Grammar.pairwise_starts_root h) hfound
    simp only [Node.FirstViolation, Placed.violates_setting_iff] at hfirst
    exact ⟨rfl, hfirst⟩

variable {s level}

section

variable {low high : Level} (hle : low ≤ high)
include hle

theorem verifyAt_ok_mono (h : (ofFormat format).verifyAt s high = .ok ()) :
    (ofFormat format).verifyAt s low = .ok () := by
  cases herror : (ofFormat format).error? with
  | some error =>
    rw [verifyAt_of_error s high herror] at h
    cases h
  | none =>
    rw [verifyAt_eq_ok_iff s high herror] at h
    rw [verifyAt_eq_ok_iff s low herror]
    intro placed hplaced problem hviolates
    exact h placed hplaced problem (hviolates.mono hle)

/-- A later level reports nothing that comes behind what an earlier one reports. -/
theorem start_le_of_verifyAt {error later : TemplateError} (hlow : (ofFormat format).verifyAt s low = .error error)
    (hhigh : (ofFormat format).verifyAt s high = .error later) : later.span.start ≤ error.span.start := by
  cases herror : (ofFormat format).error? with
  | some found =>
    rw [verifyAt_of_error s low herror] at hlow
    rw [verifyAt_of_error s high herror, hlow] at hhigh
    cases hhigh
    exact le_rfl
  | none =>
    obtain ⟨-, placed, hplaced, hspan, hviolates, -⟩ := firstViolation_of_verifyAt s low herror hlow
    obtain ⟨-, -, -, -, -, hfirst⟩ := firstViolation_of_verifyAt s high herror hhigh
    exact hfirst placed hplaced error.problem error.span (hviolates.mono hle) hspan

end

/-- A level reports no problem of a stage beyond its own. -/
theorem rank_le_of_verifyAt {error : TemplateError} (h : (ofFormat format).verifyAt s level = .error error) :
    error.stage.rank ≤ level.stage.rank := by
  cases herror : (ofFormat format).error? with
  | some found =>
    rw [verifyAt_of_error s level herror] at h
    cases h
    rw [stage_of_error herror]
    exact Nat.zero_le _
  | none =>
    obtain ⟨-, placed, -, -, hviolates, -⟩ := firstViolation_of_verifyAt s level herror h
    exact hviolates.rank_le

/-- Every level reports the violation of its rules that comes first in the format string, and a later level has all the
violations of an earlier one, so that it reports none that comes behind, and none of a stage beyond its own. -/
theorem verifyAt_reports_first (format : String) (s : Setting) :
    (∀ error, (ofFormat format).error? = some error → ∀ level, (ofFormat format).verifyAt s level = .error error) ∧
      ((ofFormat format).error? = none →
        (ofFormat format).root.starts.Pairwise (· < ·) ∧
          ∀ level,
            ((ofFormat format).verifyAt s level = .ok () ↔
                ∀ placed ∈ (ofFormat format).root.parts [], ∀ problem, ¬ placed.Violates level s problem) ∧
              ∀ error, (ofFormat format).verifyAt s level = .error error →
                error.format = format ∧ (ofFormat format).root.FirstViolation level s ⟨error.problem, error.span⟩) ∧
      (∀ low high : Level, low ≤ high →
        (∀ (placed : Placed) (problem : Problem), placed.Violates low s problem → placed.Violates high s problem) ∧
          ((ofFormat format).verifyAt s high = .ok () → (ofFormat format).verifyAt s low = .ok ()) ∧
          ∀ error later, (ofFormat format).verifyAt s low = .error error →
            (ofFormat format).verifyAt s high = .error later → later.span.start ≤ error.span.start) ∧
      ∀ level error, (ofFormat format).verifyAt s level = .error error → error.stage.rank ≤ level.stage.rank := by
  refine ⟨fun error herror level => verifyAt_of_error s level herror, fun hnone => ?_, fun low high hle => ?_,
    fun level error => rank_le_of_verifyAt⟩
  · refine ⟨Grammar.pairwise_starts_root hnone, fun level => ⟨verifyAt_eq_ok_iff s level hnone, ?_⟩⟩
    intro error herror
    exact firstViolation_of_verifyAt s level hnone herror
  · refine ⟨fun placed problem hviolates => hviolates.mono hle, verifyAt_ok_mono hle, ?_⟩
    intro error later hlow hhigh
    exact start_le_of_verifyAt hle hlow hhigh

/-- A name that is missing passes at the level of the text; the level of the own map finds the cause that is missing
inside of the conditional, and the last level the name before it. -/
theorem verifyAt_reports_first_nested :
    ∃ own passed : TemplateError,
      (ofFormat "$\x7bx\x7d%!m>0\x7b: %w\x7d").verifyAt ⟨.singleton "a" .nil, .empty, none⟩ .own = .error own ∧
        (ofFormat "$\x7bx\x7d%!m>0\x7b: %w\x7d").verifyAt ⟨.singleton "a" .nil, .empty, none⟩ .passed = .error passed ∧
        own.span = ⟨12, 14⟩ ∧ own.stage.rank ≤ Stage.ownParameters.rank ∧ passed.span.start ≤ own.span.start := by
  obtain ⟨-, -, hlevels, hrank⟩ :=
    verifyAt_reports_first "$\x7bx\x7d%!m>0\x7b: %w\x7d" ⟨.singleton "a" .nil, .empty, none⟩
  refine ⟨_, _, rfl, rfl, rfl, hrank .own _ rfl, ?_⟩
  exact (hlevels .own .passed (by decide)).2.2 _ _ rfl rfl

end Template

end Mishap
