import Mishap.Command.Run
import Mishap.Proofs.Command.Loading
import Mishap.Proofs.Fault.Construction
import Mishap.Proofs.Fault.Tracing
import Mishap.Proofs.Template.Levels
import Mishap.Proofs.Template.Sharing

/-!
Checking and rendering on the command line. Checking looks at a template, rendering at a fault that is built around
another one and gets its template from a cache. Main statement: both see the same maps and the same cause, so that a
check against all of them that passes tells of a message in which nothing is substituted.
-/

namespace Mishap

namespace Inputs

/-- The cause that the inputs name. -/
def fault? (inputs : Inputs) : Option Fault := inputs.cause.map Command.causeOf

/-- What a format string is checked against. -/
def setting (inputs : Inputs) : Setting := ⟨inputs.own, inputs.passed, inputs.fault?.map Fault.voice⟩

/-- What a format string is rendered as: an empty one stands for the message of the cause. -/
def note (inputs : Inputs) (format : String) : Note :=
  ⟨.ofFormat (if format = "" then "%w" else format), inputs.own, inputs.fault?⟩

end Inputs

/-! ### Templates from a cache -/

/-- Builds the fault like `build`, with a template from elsewhere. -/
def Draft.buildWith (template : String → Template) (draft : Draft) (id : Identity) (caller : Caller) (eager : Bool) :
    Attempt Handle := do
  Attempt.checkSchema caller draft.schema
  let policy ← Attempt.ofFlags caller (Flag.mergePolicy draft.flags)
  let format ← draft.resolveFormat caller
  let params ← Attempt.ofData (draft.mergedParams policy)
  let a : Note := ⟨template format, params, draft.cause⟩
  if eager then Attempt.ofData (checkOwn a)
  let record ← Attempt.ofData (draft.schema.read .isError params)
  return ⟨Fault.annotate id a, a, record⟩

/-- A sound cache has the template that would be read. -/
theorem TemplateCache.Sound.buildWith_eq {cache : TemplateCache} (hsound : cache.Sound) (draft : Draft) (id : Identity)
    (caller : Caller) (eager : Bool) :
    draft.buildWith (fun format => (cache.fetch format).1) id caller eager = draft.build id caller eager := by
  have hfetch : (fun format => (cache.fetch format).1) = Template.ofFormat :=
    funext fun format => (hsound.fetch format).1
  rw [hfetch]
  rfl

namespace Command

/-- What the fault that is rendered is built from. -/
def draft (format : String) (inputs : Inputs) : Draft := ⟨inputs.fault?, format, inputs.own, [], .empty⟩

def caller (inputs : Inputs) : Caller := if inputs.cause = none then .withParams else .wrapWithParams

/-- The outcome of rendering a fault, if there is one. -/
def outcomeOf (inputs : Inputs) : Attempt Handle → Outcome
  | .error (.usage error) => .silent (.broken error.message)
  | .error (.data error) => .silent (.broken error.message)
  | .ok handle =>
    match handle.note.interpolate inputs.passed with
    | .ok message => .printed message
    | .error error => .silent (.broken error.message)

/-- Renders a format string with a template from a cache. -/
def renderFrom (cache : TemplateCache) (load : String → Except CommandFault Params) (format : String)
    (sources : Sources) : Outcome :=
  withInputs load sources fun inputs =>
    if inputs.cause = none ∧ format = "" then .silent (.unloaded .emptyFormat)
    else
      outcomeOf inputs <|
        ((draft format inputs).buildWith (fun format => (cache.fetch format).1) 1 (caller inputs) false).insist
          (caller inputs)

theorem annotatedWith_eq (format : String) (inputs : Inputs) :
    annotatedWith format inputs = (draft format inputs).insist 1 (caller inputs) := by
  obtain ⟨own, passed, cause⟩ := inputs
  cases cause <;> rfl

/-- A sound cache does not show in what is rendered. -/
theorem renderFrom_eq {cache : TemplateCache} (hsound : cache.Sound) (load : String → Except CommandFault Params)
    (format : String) (sources : Sources) :
    renderFrom cache load format sources = run load (.render format sources) := by
  simp only [renderFrom, hsound.buildWith_eq]
  refine congrArg (withInputs load sources) (funext fun inputs => ?_)
  rw [renderWith, annotatedWith_eq]
  rfl

/-! ### The fault that is rendered -/

/-- Nothing is merged and nothing can be refused: the fault is that of the note. -/
theorem insist_draft {format : String} {inputs : Inputs} (h : ¬ (inputs.cause = none ∧ format = "")) :
    (draft format inputs).insist 1 (caller inputs) =
      .ok ⟨Fault.annotate 1 (inputs.note format), inputs.note format, []⟩ := by
  have hmisuse : ∀ misuse, ¬ (draft format inputs).FirstMisuse misuse := by
    refine Draft.no_misuse (Schema.fault?_eq_none_iff.1 rfl) (by simp [draft, Flag.Misused]) fun hformat hcause => ?_
    exact h ⟨Option.map_eq_none_iff.1 hcause, hformat⟩
  have hmerged : (draft format inputs).merged = .ok inputs.own := by
    obtain ⟨own, passed, cause⟩ := inputs
    cases cause <;> rfl
  have hformat : (draft format inputs).chosenFormat = if format = "" then "%w" else format := by
    obtain ⟨own, passed, cause⟩ := inputs
    cases cause with
    | none =>
      have hne : format ≠ "" := fun hempty => h ⟨rfl, hempty⟩
      rw [if_neg hne]
      exact if_neg hne
    | some message => rfl
  have hsettle : Draft.settle .empty 1 false ((draft format inputs).noteWith inputs.own) = _ :=
    Draft.settle_of_checked fun heager => absurd heager Bool.false_ne_true
  rw [Draft.insist, Draft.build_eq, Draft.outline_of_no_misuse hmisuse, hmerged]
  change (Draft.settle .empty 1 false ((draft format inputs).noteWith inputs.own)).insist _ = _
  rw [hsettle, Draft.noteWith, hformat]
  rfl

theorem renderWith_eq {format : String} {inputs : Inputs} (h : ¬ (inputs.cause = none ∧ format = "")) :
    renderWith format inputs =
      match (inputs.note format).interpolate inputs.passed with
      | .ok message => .printed message
      | .error error => .silent (.broken error.message) := by
  calc
    renderWith format inputs = outcomeOf inputs (annotatedWith format inputs) := if_neg h
    _ = outcomeOf inputs (.ok ⟨Fault.annotate 1 (inputs.note format), inputs.note format, []⟩) := by
      rw [annotatedWith_eq, insist_draft h]
    _ = _ := rfl

theorem flat_causeOf (message : String) : (causeOf message).Flat :=
  Fault.flat_of_chain rfl (by simp [causeOf, Fault.linkKind])

/-- The cause is not annotated, so that nothing but the note itself decides what is substituted. -/
theorem substitutes_note_eq_nil {format : String} {inputs : Inputs}
    (hcheck : (inputs.note format).template.verifyAt inputs.setting .passed = .ok ()) :
    ((inputs.note format).trace inputs.passed).substitutes = [] := by
  have hspelling : (inputs.note format).template.verifySyntax = .ok () :=
    Template.verifyAt_ok_mono (show Level.syntactic ≤ .passed from by decide) hcheck
  have hflat : ∀ c ∈ (inputs.note format).cause, c.Flat := by
    intro c hc
    obtain ⟨message, -, rfl⟩ := Option.map_eq_some_iff.1 hc
    exact flat_causeOf message
  refine (Note.substitutes_trace_eq_nil_iff hspelling inputs.passed hflat).2 ⟨hcheck, ?_⟩
  rintro _ ⟨hcause, -⟩
  obtain ⟨c, hc, hnote⟩ := Option.bind_eq_some_iff.1 hcause
  obtain ⟨message, -, rfl⟩ := Option.map_eq_some_iff.1 hc
  cases hnote

/-- What is rendered passes the check if the format string does: it is the same, or the message of the cause alone. -/
theorem verifyAt_note {format : String} {inputs : Inputs} (h : ¬ (inputs.cause = none ∧ format = ""))
    (hcheck : (Template.ofFormat format).verifyAt inputs.setting .passed = .ok ()) :
    (inputs.note format).template.verifyAt inputs.setting .passed = .ok () := by
  rw [Inputs.note]
  split
  · next hempty =>
    obtain ⟨own, passed, cause⟩ := inputs
    cases cause with
    | none => exact absurd ⟨rfl, hempty⟩ h
    | some message => rfl
  · exact hcheck

/-! ### Exit codes -/

section

variable {load : String → Except CommandFault Params} {sources : Sources}

theorem run_of_not_give (h : ¬ ∃ inputs, sources.Give load inputs) (format : String) :
    (∀ level, (run load (.check format level sources)).exitCode = 2) ∧
      (run load (.render format sources)).exitCode = 2 := by
  cases hload : Inputs.ofSources load sources with
  | ok inputs => exact absurd ⟨inputs, Inputs.ofSources_eq_ok_iff.1 hload⟩ h
  | error fault =>
    simp only [run, withInputs, hload]
    exact ⟨fun level => rfl, rfl⟩

variable {inputs : Inputs} (hgive : sources.Give load inputs) (format : String)
include hgive

theorem run_check (level : Level) :
    run load (.check format level sources) =
      match (Template.ofFormat format).verifyAt inputs.setting level with
      | .ok () => .printed "ok"
      | .error error => .silent (.problem error) := by
  have hverify : verify level (Template.ofFormat format) inputs =
      (Template.ofFormat format).verifyAt inputs.setting level := by
    obtain ⟨own, passed, cause⟩ := inputs
    cases level <;> cases cause <;> rfl
  rw [run, withInputs, Inputs.ofSources_eq_ok_iff.2 hgive]
  calc
    checkWith format level inputs =
        match verify level (Template.ofFormat format) inputs with
        | .ok () => .printed "ok"
        | .error error => .silent (.problem error) := rfl
    _ = _ := by rw [hverify]

theorem exitCode_check_eq_zero_iff (level : Level) :
    (run load (.check format level sources)).exitCode = 0 ↔
      (Template.ofFormat format).verifyAt inputs.setting level = .ok () := by
  rw [run_check hgive]
  cases (Template.ofFormat format).verifyAt inputs.setting level with
  | ok u => exact ⟨fun _ => rfl, fun _ => rfl⟩
  | error error => simp [Outcome.silent, Outcome.exitCode, Ending.exitCode]

theorem exitCode_check_eq_one_iff (level : Level) :
    (run load (.check format level sources)).exitCode = 1 ↔
      ∃ error, (Template.ofFormat format).verifyAt inputs.setting level = .error error := by
  rw [run_check hgive]
  cases (Template.ofFormat format).verifyAt inputs.setting level with
  | ok u => simp [Outcome.printed, Outcome.exitCode, Ending.exitCode]
  | error error => exact ⟨fun _ => ⟨error, rfl⟩, fun _ => rfl⟩

/-- A later level passes only where an earlier one does. -/
theorem exitCode_check_mono {low high : Level} (hle : low ≤ high)
    (hhigh : (run load (.check format high sources)).exitCode = 0) :
    (run load (.check format low sources)).exitCode = 0 := by
  rw [exitCode_check_eq_zero_iff hgive] at hhigh ⊢
  exact Template.verifyAt_ok_mono hle hhigh

theorem run_render :
    run load (.render format sources) =
      if format = "" ∧ sources.cause = none then .silent (.unloaded .emptyFormat)
      else
        match (inputs.note format).interpolate inputs.passed with
        | .ok message => .printed message
        | .error error => .silent (.broken error.message) := by
  rw [run, withInputs, Inputs.ofSources_eq_ok_iff.2 hgive]
  change renderWith format inputs = _
  rw [← hgive.cause]
  split
  · next hempty => rw [renderWith, if_pos hempty.symm]
  · next hempty => exact renderWith_eq fun h => hempty h.symm

theorem exitCode_render_eq_two_iff :
    (run load (.render format sources)).exitCode = 2 ↔ format = "" ∧ sources.cause = none := by
  rw [run_render hgive]
  split
  · next hempty => exact ⟨fun _ => hempty, fun _ => rfl⟩
  · next hempty =>
    refine ⟨fun hcode => ?_, fun h => absurd h hempty⟩
    cases hmessage : (inputs.note format).interpolate inputs.passed <;> rw [hmessage] at hcode <;> cases hcode

variable {format}

section

variable (hnonempty : ¬ (format = "" ∧ sources.cause = none))
include hnonempty

theorem run_render_of_ok {message : String}
    (hmessage : (inputs.note format).interpolate inputs.passed = .ok message) :
    run load (.render format sources) = .printed message := by
  rw [run_render hgive, if_neg hnonempty, hmessage]

theorem run_render_of_error {error : Verb.PlacesExceeded}
    (herror : (inputs.note format).interpolate inputs.passed = .error error) :
    run load (.render format sources) = .silent (.broken error.message) := by
  rw [run_render hgive, if_neg hnonempty, herror]

end

/-- Where the check against all inputs passes and a message is printed, nothing is substituted in it. -/
theorem clean_of_check (hcheck : (run load (.check format .passed sources)).exitCode = 0)
    (hrender : (run load (.render format sources)).exitCode = 0) :
    ∃ message, ((inputs.note format).trace inputs.passed).text = .ok message ∧
      ((inputs.note format).trace inputs.passed).substitutes = [] ∧
      (run load (.render format sources)).output = message ++ "\n" := by
  have hnonempty : ¬ (format = "" ∧ sources.cause = none) := by
    rw [← exitCode_render_eq_two_iff hgive, hrender]
    decide
  have hverify := (exitCode_check_eq_zero_iff hgive format .passed).1 hcheck
  have hclean : ((inputs.note format).trace inputs.passed).substitutes = [] := by
    refine substitutes_note_eq_nil (verifyAt_note ?_ hverify)
    rw [hgive.cause]
    exact fun h => hnonempty h.symm
  rw [Note.text_trace]
  cases hmessage : (inputs.note format).interpolate inputs.passed with
  | error error =>
    rw [run_render_of_error hgive hnonempty hmessage] at hrender
    cases hrender
  | ok message =>
    rw [run_render_of_ok hgive hnonempty hmessage]
    exact ⟨message, rfl, hclean, rfl⟩

end

/-- Checking and rendering with the same arguments. Both fail to load what the sources do not give. Otherwise a check
ends as the check of the level does, a later level passing only where an earlier one does; a message is printed, except
for an empty format string without a cause and where a value cannot be formatted, that of the template rendered against
the inputs, wherever the template comes from; and where the check against all inputs passes, nothing is substituted. -/
theorem check_agrees_with_render (load : String → Except CommandFault Params) (format : String) (sources : Sources) :
    ((¬ ∃ inputs, sources.Give load inputs) →
        (∀ level, (run load (.check format level sources)).exitCode = 2) ∧
          (run load (.render format sources)).exitCode = 2) ∧
      (∀ cache : TemplateCache, cache.Sound →
        renderFrom cache load format sources = run load (.render format sources)) ∧
      ∀ inputs, sources.Give load inputs →
        (∀ level,
          ((run load (.check format level sources)).exitCode = 0 ↔
              (Template.ofFormat format).verifyAt inputs.setting level = .ok ()) ∧
            ((run load (.check format level sources)).exitCode = 1 ↔
              ∃ error, (Template.ofFormat format).verifyAt inputs.setting level = .error error)) ∧
        (∀ low high : Level, low ≤ high → (run load (.check format high sources)).exitCode = 0 →
          (run load (.check format low sources)).exitCode = 0) ∧
        ((run load (.render format sources)).exitCode = 2 ↔ format = "" ∧ sources.cause = none) ∧
        (¬ (format = "" ∧ sources.cause = none) →
          (∀ message,
            (Template.ofFormat (if format = "" then "%w" else format)).render inputs.own inputs.passed
                inputs.setting.cause = .ok message →
              (run load (.render format sources)).exitCode = 0 ∧
                (run load (.render format sources)).output = message ++ "\n") ∧
            ∀ error,
              (Template.ofFormat (if format = "" then "%w" else format)).render inputs.own inputs.passed
                  inputs.setting.cause = .error error →
                (run load (.render format sources)).exitCode = 101) ∧
        ((run load (.check format .passed sources)).exitCode = 0 →
          (run load (.render format sources)).exitCode = 0 →
            ∃ message, ((inputs.note format).trace inputs.passed).text = .ok message ∧
              ((inputs.note format).trace inputs.passed).substitutes = [] ∧
              (run load (.render format sources)).output = message ++ "\n") := by
  refine ⟨fun h => run_of_not_give h format, fun cache hsound => renderFrom_eq hsound load format sources, ?_⟩
  intro inputs hgive
  refine ⟨fun level => ?_, fun low high => exitCode_check_mono hgive format, exitCode_render_eq_two_iff hgive format,
    fun hnonempty => ⟨fun message hmessage => ?_, fun error herror => ?_⟩, clean_of_check hgive⟩
  · exact ⟨exitCode_check_eq_zero_iff hgive format level, exitCode_check_eq_one_iff hgive format level⟩
  · rw [run_render_of_ok hgive hnonempty hmessage]
    exact ⟨rfl, rfl⟩
  · rw [run_render_of_error hgive hnonempty herror]
    rfl

/-- An assignment over a file, a passed map that is the own one, and a cause. -/
theorem check_agrees_with_render_assigned :
    let load : String → Except CommandFault Params := fun _ => .ok (.singleton "A" .nil)
    let sources : Sources := ⟨some "own.json", ["A=x"], none, some "no device"⟩
    (run load (.check "%\x7bA\x7d $\x7bA\x7d: %w" .passed sources)).exitCode = 0 ∧
      (run load (.check "%\x7bA\x7d $\x7bA\x7d: %w" .own sources)).exitCode = 0 ∧
      (run load (.render "%\x7bA\x7d $\x7bA\x7d: %w" sources)).output = "x x: no device\n" := by
  intro load sources
  let inputs : Inputs := ⟨.singleton "A" (.text "x"), .singleton "A" (.text "x"), some "no device"⟩
  have hgive : sources.Give load inputs := Inputs.ofSources_eq_ok_iff.1 rfl
  obtain ⟨-, -, hagree⟩ := check_agrees_with_render load "%\x7bA\x7d $\x7bA\x7d: %w" sources
  obtain ⟨hcheck, hmono, -, hrender, -⟩ := hagree inputs hgive
  have hpassed := (hcheck .passed).1.2 rfl
  exact ⟨hpassed, hmono .own .passed (by decide) hpassed, ((hrender (by decide)).1 "x x: no device" rfl).2⟩

end Command

end Mishap
