import Mishap.Proofs.Template.Parts
import Mishap.Template

/-!
Checking and rendering agree on which directives get what they ask for. Main statement: where a format string has no
problem in its text, it passes the check against both maps exactly if its message substitutes nothing, and the check
against the own map exactly if no directive of the own scope outside of conditionals on the passed map is substituted,
whatever is passed down.
-/

namespace Mishap

namespace Setting

variable (setting : Setting)

/-- The check and the message ask the same of a part. -/
theorem missingProblem?_eq_none_iff (part : Part) :
    setting.missingProblem? part = none ↔ (setting.answer? part).isSome := by
  cases part with
  | literal text => simp [missingProblem?, answer?]
  | head guard => simp [missingProblem?, answer?]
  | field ref =>
    rw [missingProblem?, answer?, Option.map_eq_none_iff, FieldRef.missingProblem?, Params.contains]
    cases hselector : isMapSelector ref.name with
    | true => simp
    | false =>
      cases hvalue : (setting.params ref.scope).get? ref.name with
      | some v => simp
      | none => cases hscope : ref.scope <;> simp
  | wrap scope span =>
    obtain ⟨own, passed, cause⟩ := setting
    cases scope with
    | own => cases cause <;> simp [missingProblem?, wrapProblem?, answer?]
    | passed =>
      cases cause with
      | none => simp [missingProblem?, wrapProblem?, answer?]
      | some voice => cases hinterpolate : voice.interpolate <;>
          simp [missingProblem?, wrapProblem?, answer?, Voice.isInterpolatable, hinterpolate]

/-- What is passed down does not matter to a directive of the own scope. -/
theorem answer?_of_own {part : Part} (h : part.scope? = some .own) (own passed other : Params) (cause : Option Voice) :
    (⟨own, passed, cause⟩ : Setting).answer? part = (⟨own, other, cause⟩ : Setting).answer? part := by
  cases part with
  | field ref =>
    have hscope : ref.scope = .own := Option.some.inj h
    simp [answer?, hscope, params]
  | wrap scope span =>
    obtain rfl : scope = .own := Option.some.inj h
    rfl
  | _ => simp [Part.scope?] at h

theorem shows_of_own {guard : Guard} (h : guard.scope = .own) (own passed other : Params) (cause : Option Voice) :
    (⟨own, passed, cause⟩ : Setting).shows guard = (⟨own, other, cause⟩ : Setting).shows guard := by
  simp [shows, h, params]

end Setting

namespace Placed

variable (setting : Setting) (placed : Placed)

theorem active_passed : placed.active .passed setting = placed.shown setting := by
  simp [active, shown, Level.resolves]

theorem active_own_iff : placed.active .own setting ↔
    placed.shown setting ∧ ∀ guard ∈ placed.around, guard.scope = .own := by
  have hresolves (scope : Scope) : Level.own.resolves scope = true ↔ scope = .own := by
    cases scope <;> simp [Level.resolves]
  simp only [active, shown, List.all_eq_true, Bool.and_eq_true, hresolves]
  constructor
  · intro h
    exact ⟨fun guard hguard => (h guard hguard).2, fun guard hguard => (h guard hguard).1⟩
  · intro h guard hguard
    exact ⟨h.2 guard hguard, h.1 guard hguard⟩

theorem shown_of_own (h : ∀ guard ∈ placed.around, guard.scope = .own) (own passed other : Params)
    (cause : Option Voice) : placed.shown ⟨own, passed, cause⟩ = placed.shown ⟨own, other, cause⟩ := by
  rw [Bool.eq_iff_iff]
  simp only [shown, List.all_eq_true]
  apply forall₂_congr
  intro guard hguard
  rw [Setting.shows_of_own (h guard hguard) own passed other cause]

/-- A part that reads no map asks for nothing. -/
theorem missingProblem?_of_scope? {part : Part} (h : part.scope? = none) : setting.missingProblem? part = none := by
  cases part with
  | field ref => simp [Part.scope?] at h
  | wrap scope span => simp [Part.scope?] at h
  | _ => rfl

/-- Where a text has no problem, a check finds that a part does not get what it asks for, if it looks at it. -/
theorem problem?_eq_none_iff {level : Level} (hclean : placed.part.syntaxProblem? = none) :
    placed.problem? level setting = none ↔
      (placed.active level setting → placed.part.scope?.any level.resolves → (setting.answer? placed.part).isSome) := by
  rw [problem?, hclean, Option.none_or, ← setting.missingProblem?_eq_none_iff]
  cases placed.active level setting <;> cases placed.part.scope?.any level.resolves <;> simp

/-- The check against both maps. -/
theorem problem?_passed_eq_none_iff (hclean : placed.part.syntaxProblem? = none) :
    placed.problem? .passed setting = none ↔ (placed.shown setting → (setting.answer? placed.part).isSome) := by
  rw [placed.problem?_eq_none_iff setting hclean, active_passed]
  cases hscope : placed.part.scope? with
  | none =>
    have hanswer := (setting.missingProblem?_eq_none_iff placed.part).1 (missingProblem?_of_scope? setting hscope)
    simp [hanswer]
  | some scope => simp [Level.resolves]

/-- The check against the own map. -/
theorem problem?_own_eq_none_iff (hclean : placed.part.syntaxProblem? = none) :
    placed.problem? .own setting = none ↔
      (placed.shown setting → placed.part.scope? = some .own → (∀ guard ∈ placed.around, guard.scope = .own) →
        (setting.answer? placed.part).isSome) := by
  have hscope : placed.part.scope?.any Level.own.resolves ↔ placed.part.scope? = some .own := by
    rcases placed.part.scope? with _ | _ | _ <;> simp [Level.resolves]
  rw [placed.problem?_eq_none_iff setting hclean, active_own_iff, hscope]
  constructor
  · intro h hshown hown haround
    exact h ⟨hshown, haround⟩ hown
  · intro h hactive hown
    exact h hactive.1 hown hactive.2

end Placed

namespace Template

theorem verify_eq_ok_iff (t : Template) (level : Level) (setting : Setting) :
    t.verify level setting = .ok () ↔
      t.error? = none ∧ ∀ placed ∈ t.root.parts [], placed.problem? level setting = none := by
  rw [← Node.check_eq_ok_iff, verify]
  cases t.error? with
  | some error => simp
  | none => cases t.root.check level setting true <;> simp

/-- The checks against the maps find what the message substitutes: the message is the texts of the parts that are
shown, a part substituted where it has no answer. -/
theorem verify_iff_answered (format : String) (hclean : (ofFormat format).verifySyntax = .ok ()) (own : Params)
    (cause : Option Voice) :
    (∀ passed, (ofFormat format).verifyPassed own passed cause = .ok () ↔
        ∀ placed ∈ (ofFormat format).root.visited ⟨own, passed, cause⟩,
          (Setting.answer? ⟨own, passed, cause⟩ placed.part).isSome) ∧
      ((ofFormat format).verifyOwn own cause = .ok () ↔
        ∀ passed, ∀ placed ∈ (ofFormat format).root.visited ⟨own, passed, cause⟩,
          placed.part.scope? = some .own → (∀ guard ∈ placed.around, guard.scope = .own) →
            (Setting.answer? ⟨own, passed, cause⟩ placed.part).isSome) ∧
      ∀ passed, (ofFormat format).render own passed cause =
        Verb.Formatted.joined (((ofFormat format).root.visited ⟨own, passed, cause⟩).map fun placed =>
          Setting.partText ⟨own, passed, cause⟩ placed.part) := by
  obtain ⟨herror, hparts⟩ := (verify_eq_ok_iff _ _ _).1 hclean
  have hpart : ∀ placed ∈ (ofFormat format).root.parts [], placed.part.syntaxProblem? = none := by
    intro placed hplaced
    exact (Option.or_eq_none_iff.1 (hparts placed hplaced)).1
  refine ⟨fun passed => ?_, ?_, fun passed => Node.render_eq_joined _ _⟩
  · rw [verifyPassed, verify_eq_ok_iff, Node.visited]
    simp only [herror, true_and, List.mem_filter, and_imp]
    apply forall₂_congr
    intro placed hplaced
    exact placed.problem?_passed_eq_none_iff _ (hpart placed hplaced)
  · rw [verifyOwn, verify_eq_ok_iff]
    simp only [herror, true_and, Node.visited, List.mem_filter, and_imp]
    constructor
    · intro h passed placed hplaced hshown hown haround
      rw [placed.shown_of_own haround own passed .empty cause] at hshown
      rw [Setting.answer?_of_own hown own passed .empty cause]
      exact (placed.problem?_own_eq_none_iff _ (hpart placed hplaced)).1 (h placed hplaced) hshown hown haround
    · intro h placed hplaced
      exact (placed.problem?_own_eq_none_iff _ (hpart placed hplaced)).2 (h .empty placed hplaced)

/-- A cause that cannot be interpolated is no problem where it is not shown. -/
theorem verify_iff_answered_hidden_cause :
    (ofFormat "%\x7bm\x7d$!m>0\x7b: $w\x7d").verifySyntax = .ok () ∧
      ∀ placed ∈ (ofFormat "%\x7bm\x7d$!m>0\x7b: $w\x7d").root.visited ⟨.empty, .empty, some (.plain "eof")⟩,
        (Setting.answer? ⟨.empty, .empty, some (.plain "eof")⟩ placed.part).isSome :=
  ⟨rfl, ((verify_iff_answered "%\x7bm\x7d$!m>0\x7b: $w\x7d" rfl .empty (some (.plain "eof"))).1 .empty).1 rfl⟩

end Template

end Mishap
