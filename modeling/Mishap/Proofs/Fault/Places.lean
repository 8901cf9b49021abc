import Mishap.Proofs.Fault.Tracing

/-!
Where rendering fails. A number is formatted with so many places and no more, but a verb may ask for more of them. Main
statement: a template renders to a text exactly if no number that goes into it, on the way through all messages in it,
is asked for more places than that.
-/

namespace Mishap

namespace Verb

/-! ### Numbers and their verbs -/

/-- Whether a letter for numbers asks for more places than a magnitude can be formatted with. The general form asks for
one place less than it has digits, and once more where it writes a number below one without an exponent: then the zeros
behind the point come on top. -/
def TooManyPlaces (precision : Nat) (x : Number.Ratio) : VerbLetter → Prop
  | .fixed _ | .exponent _ => mostPlaces < precision
  | .general _ =>
    let exponent := (Decimal.roundedScientific (precision - 1) x).exponent
    mostPlaces < precision - 1 ∨ (-4 ≤ exponent ∧ exponent < 0 ∧ mostPlaces < (precision - 1 : Nat) - exponent)
  | _ => False

/-- Whether the verb asks for more places of a value than it can be formatted with. -/
def Overreaches (verb : Verb) (v : Value) : Prop :=
  ∃ negative exponent fraction precision, v = .float (.finite negative exponent fraction) ∧
    verb.precision = some precision ∧
    TooManyPlaces precision (Binary64.magnitude exponent fraction) (verb.letterFor v)

/-- What follows a check of places succeeds if the check does. -/
theorem isOk_checked_iff {α : Type} {places : Nat} {x : Formatted α} :
    (do checkPlaces places; x).isOk ↔ places ≤ mostPlaces ∧ x.isOk := by
  rw [checkPlaces]
  split
  · next h => exact (and_iff_right h).symm
  · next h => exact iff_of_false nofun fun hboth => h hboth.1

theorem isOk_fixedForm_iff {places : Nat} {x : Number.Ratio} : (fixedForm places x).isOk ↔ places ≤ mostPlaces :=
  isOk_checked_iff.trans (and_iff_left rfl)

theorem isOk_exponentForm_iff {upper : Bool} {places : Nat} {x : Number.Ratio} :
    (exponentForm upper places x).isOk ↔ places ≤ mostPlaces :=
  isOk_checked_iff.trans (and_iff_left rfl)

theorem isOk_map_iff {α β : Type} {x : Formatted α} {f : α → β} : (do return f (← x)).isOk ↔ x.isOk := by
  cases x <;> exact Iff.rfl

theorem isOk_generalForm_iff {upper : Bool} {precision : Nat} {x : Number.Ratio} :
    (generalForm upper precision x).isOk ↔ ¬ TooManyPlaces precision x (.general upper) := by
  have hdigits : max precision 1 - 1 = precision - 1 := by omega
  rw [generalForm, isOk_checked_iff, TooManyPlaces, hdigits]
  dsimp only
  generalize (Decimal.roundedScientific (precision - 1) x).exponent = exponent
  split
  · -- with an exponent no further places are asked for
    next hscientific =>
    refine (and_iff_left rfl).trans ?_
    omega
  · next hplain =>
    rw [isOk_map_iff, isOk_fixedForm_iff]
    omega

/-- The digits of a magnitude, by a letter for numbers. -/
theorem isOk_magnitudeChars_iff {verb : Verb} {letter : VerbLetter} {exponent : Binary64.Exponent}
    {fraction : Binary64.Fraction} :
    (verb.magnitudeChars letter exponent fraction).isOk ↔
      ∀ precision, verb.precision = some precision →
        ¬ TooManyPlaces precision (Binary64.magnitude exponent fraction) letter := by
  rw [magnitudeChars.eq_def]
  cases hprecision : verb.precision with
  | none =>
    have hdefault : defaultPlaces ≤ mostPlaces := by decide
    cases letter <;> simp [isOk_fixedForm_iff, isOk_exponentForm_iff, hdefault] <;> rfl
  | some precision =>
    cases letter <;> simp [isOk_fixedForm_iff, isOk_exponentForm_iff, isOk_generalForm_iff, TooManyPlaces] <;> rfl

/-- A value that is no finite number is laid out without failure, if the verb applies to it. -/
theorem isOk_layout_of_not_number {verb : Verb} {v : Value} {layout : Formatted Layout}
    (h : verb.layout? v = some layout)
    (hv : ∀ negative exponent fraction, v ≠ .float (.finite negative exponent fraction)) : layout.isOk := by
  cases v with
  | int n =>
    obtain ⟨_, -, rfl⟩ := Option.map_eq_some_iff.1 h
    rfl
  | uint n =>
    obtain ⟨_, -, rfl⟩ := Option.map_eq_some_iff.1 h
    rfl
  | float x =>
    cases x with
    | finite negative exponent fraction => exact absurd rfl (hv negative exponent fraction)
    | _ =>
      simp only [layout?] at h
      split at h <;> cases h <;> rfl
  | _ =>
    simp only [layout?] at h
    split at h <;> cases h <;> rfl

/-- A finite number is laid out by the letters for numbers only. -/
theorem layout_finite (verb : Verb) (negative : Bool) (exponent : Binary64.Exponent) (fraction : Binary64.Fraction) :
    let x : Binary64 := .finite negative exponent fraction
    let letter := verb.letterFor (.float x)
    verb.layout? (.float x) = some (verb.floatLayout letter x) ∨
      (verb.layout? (.float x) = none ∧ ∀ precision y, ¬ TooManyPlaces precision y letter) := by
  dsimp only
  rw [layout?]
  cases verb.letterFor (.float (.finite negative exponent fraction)) <;> simp [TooManyPlaces]

/-- A value is formatted unless it is a number that the verb asks for too many places of. -/
theorem isOk_formatValue_iff {v : Value} {text : String} :
    (formatValue v text).isOk ↔ ∀ verb, ofText? text = some verb → ¬ verb.Overreaches v := by
  rw [formatValue]
  cases ofText? text with
  | none =>
    exact iff_of_true rfl nofun
  | some verb =>
    simp only [Option.bind_some, Option.some.injEq, forall_eq', format?]
    by_cases hnumber : ∃ negative exponent fraction, v = .float (.finite negative exponent fraction)
    · obtain ⟨negative, exponent, fraction, rfl⟩ := hnumber
      rcases verb.layout_finite negative exponent fraction with hlayout | ⟨hlayout, hletter⟩
      · rw [hlayout, Option.map_some, Option.getD_some, isOk_map_iff, floatLayout, isOk_map_iff,
          isOk_magnitudeChars_iff]
        simp [Overreaches]
      · rw [hlayout]
        refine iff_of_true rfl ?_
        rintro ⟨_, _, _, _, heq, -, htoo⟩
        cases heq
        exact hletter _ _ htoo
    · have hnot : ∀ negative exponent fraction, v ≠ .float (.finite negative exponent fraction) := by
        rintro negative exponent fraction rfl
        exact hnumber ⟨negative, exponent, fraction, rfl⟩
      refine iff_of_true ?_ ?_
      · cases hlayout : verb.layout? v with
        | none => rfl
        | some layout => exact isOk_map_iff.2 (isOk_layout_of_not_number hlayout hnot)
      · rintro ⟨negative, exponent, fraction, _, heq, -⟩
        exact hnot negative exponent fraction heq

/-- The zeros behind the point are three at most where there is no exponent. -/
theorem not_overreaches (verb : Verb) (h : verb.precision.getD 0 + 4 ≤ mostPlaces) (v : Value) :
    ¬ verb.Overreaches v := by
  rintro ⟨_, _, _, precision, -, hprecision, htoo⟩
  rw [hprecision, Option.getD_some] at h
  unfold TooManyPlaces at htoo
  split at htoo <;> omega

theorem Formatted.isOk_join_iff {a b : Formatted String} : (join a b).isOk ↔ a.isOk ∧ b.isOk := by
  cases a with
  | error e => exact iff_of_false nofun fun h => nomatch h.1
  | ok a => exact isOk_map_iff.trans (and_iff_right rfl).symm

theorem Formatted.isOk_joined_iff {texts : List (Formatted String)} :
    (joined texts).isOk ↔ ∀ text ∈ texts, text.isOk := by
  induction texts with
  | nil => exact iff_of_true rfl nofun
  | cons text texts ih => rw [joined, List.foldr_cons, isOk_join_iff, List.forall_mem_cons, ← ih, joined]

end Verb

/-! ### Messages -/

namespace Setting

/-- What a field directive formats, if its map holds it: the whole map for a selector. -/
def value? (setting : Setting) (ref : FieldRef) : Option Value :=
  let params := setting.params ref.scope
  if isMapSelector ref.name then some params.toValue else params.get? ref.name

theorem isOk_fieldText_iff {setting : Setting} {ref : FieldRef} :
    (setting.fieldText ref).isOk ↔
      ∀ v, setting.value? ref = some v → ∀ verb, Verb.ofText? ref.verbText = some verb → ¬ verb.Overreaches v := by
  rw [fieldText, value?]
  split
  · simp [Verb.isOk_formatValue_iff]
  · cases (setting.params ref.scope).get? ref.name with
    | none =>
      refine iff_of_true rfl ?_
      rintro v ⟨⟩
    | some v => simp [Verb.isOk_formatValue_iff]

end Setting

/-- The message of a fault without a note is no rendered one. -/
theorem Fault.Flat.isOk_message {f : Fault} (h : f.Flat) (hnone : f.note? = none) : f.message.isOk := by
  cases f with
  | annotated => cases hnone
  | boxed inner =>
    cases inner with
    | annotated => cases hnone
    | boxed inner => exact absurd rfl (flat_boxed_iff.1 h).1
    | _ => rfl
  | _ => rfl

namespace Note

/-- Whether every number that the message of a note shows of its own can be formatted as its verb asks. -/
def Fits (a : Note) (passed : Params) : Prop :=
  ∀ around ref, ⟨around, .field ref⟩ ∈ a.template.root.visited ⟨a.params, passed, a.voice?⟩ →
    ∀ v, Setting.value? ⟨a.params, passed, a.voice?⟩ ref = some v →
      ∀ verb, Verb.ofText? ref.verbText = some verb → ¬ verb.Overreaches v

variable {a : Note} (hflat : ∀ c ∈ a.cause, c.Flat) (p : Params)
include hflat

theorem isOk_causeText_iff (scope : Scope) :
    (Setting.causeText ⟨a.params, p, a.voice?⟩ scope).isOk ↔
      ∀ c, a.cause.bind Fault.note? = some c → (c.interpolate (c.handed p scope)).isOk := by
  obtain ⟨template, params, cause⟩ := a
  cases cause with
  | none => cases scope <;> simp [voice?, Setting.causeText, Except.isOk, Except.toBool]
  | some c =>
    have hvoice := (hflat c rfl).voice_eq
    cases hnote : c.note? with
    | none =>
      have hmessage := (hflat c rfl).isOk_message hnote
      cases scope <;> simp [voice?, Setting.causeText, hvoice, hnote, hmessage]
    | some b =>
      have hvoice : c.voice = ⟨b.message, some b.interpolate⟩ := Fault.voice_of_note hnote
      cases scope <;> simp [voice?, Setting.causeText, hvoice, hnote, handed, message]

/-- A note is rendered if its own numbers fit and the messages that it enters are rendered. -/
theorem isOk_interpolate_iff :
    (a.interpolate p).isOk ↔ a.Fits p ∧ ∀ next, Enters (a, p) next → (next.1.interpolate next.2).isOk := by
  have hpart (part : Part) : (Setting.partText ⟨a.params, p, a.voice?⟩ part).isOk ↔
      (∀ ref, part = .field ref → (Setting.fieldText ⟨a.params, p, a.voice?⟩ ref).isOk) ∧
        ∀ scope span, part = .wrap scope span →
          ∀ c, a.cause.bind Fault.note? = some c → (c.interpolate (c.handed p scope)).isOk := by
    cases part with
    | field ref => simp [Setting.partText_field]
    | wrap scope span => simp [Setting.partText_wrap, ← isOk_causeText_iff hflat]
    | literal text => exact iff_of_true rfl ⟨nofun, nofun⟩
    | head guard => exact iff_of_true rfl ⟨nofun, nofun⟩
  rw [interpolate, Template.render, Node.render_eq_joined, Verb.Formatted.isOk_joined_iff, List.forall_mem_map]
  simp only [hpart, Setting.isOk_fieldText_iff]
  constructor
  · intro h
    refine ⟨fun around ref hvisited => (h _ hvisited).1 ref rfl, ?_⟩
    rintro _ ⟨hcause, hvisited⟩
    exact (h _ hvisited).2 _ _ rfl _ hcause
  · rintro ⟨hfits, hnext⟩ ⟨around, part⟩ hvisited
    constructor
    · rintro ref rfl
      exact hfits around ref hvisited
    · rintro scope span rfl c hcause
      exact hnext _ (.wrap hcause hvisited)

end Note

namespace Template

/-- A template renders to a text, whatever its format string, its maps and its cause, unless a number that is shown on
the way is asked for more places than numbers are formatted with; and no verb of a few places less does that. -/
theorem renders_iff_fits (format : String) (own passed : Params) (cause : Option Fault) (hflat : ∀ c ∈ cause, c.Flat) :
    ((∃ text, (ofFormat format).render own passed (cause.map Fault.voice) = .ok text) ↔
        ∀ l q, Note.Visits (⟨ofFormat format, own, cause⟩, passed) (l, q) → l.Fits q) ∧
      (∀ v text, (∃ shown, formatValue v text = .ok shown) ↔
        ∀ verb, Verb.ofText? text = some verb → ¬ verb.Overreaches v) ∧
      ∀ (verb : Verb) v, verb.precision.getD 0 + 4 ≤ Verb.mostPlaces → ¬ verb.Overreaches v := by
  have hisOk {x : Verb.Formatted String} : (∃ text, x = .ok text) ↔ x.isOk := by
    cases x <;> simp [Except.isOk, Except.toBool]
  refine ⟨?_, fun v text => hisOk.trans Verb.isOk_formatValue_iff, fun verb v hfew => verb.not_overreaches hfew v⟩
  let a : Note := ⟨ofFormat format, own, cause⟩
  have hnote : (Fault.annotate 0 a).note? = some a := rfl
  refine hisOk.trans (Fault.forall_visits_iff (P := fun l q => (l.interpolate q).isOk)
    (Fault.flat_annotated_iff.2 hflat) hnote passed ?_)
  intro l q _ hflatCause
  exact Note.isOk_interpolate_iff hflatCause q

/-- One and a half under a name. -/
def oneAndAHalf : Params := .singleton "x" (.float (.finite false ⟨1023, by decide⟩ ⟨0x8000000000000, by decide⟩))

/-- A number is asked for more places than there are, by the template of a cause. -/
theorem renders_iff_fits_cause :
    ∃ (a : Note) (p : Params), a.template = ofFormat "late: %w" ∧ (¬ ∃ text, a.interpolate p = .ok text) ∧
      ∃ l q, Note.Visits (a, p) (l, q) ∧ ¬ l.Fits q := by
  let inner : Note := ⟨ofFormat "%.70000g\x7bx\x7d", oneAndAHalf, none⟩
  let cause : Fault := (Fault.annotate 0 inner).box
  have hinner : (Fault.annotate 0 inner).Flat := Fault.flat_annotated_iff.2 nofun
  have hflat : ∀ c ∈ some cause, c.Flat := by
    rintro c ⟨⟩
    exact hinner.box
  have hfails : (ofFormat "late: %w").render .empty .empty (some cause.voice) = .error ⟨69999⟩ := rfl
  have hnone : ¬ ∃ text, (ofFormat "late: %w").render .empty .empty ((some cause).map Fault.voice) = .ok text := by
    rintro ⟨text, htext⟩
    cases hfails.symm.trans htext
  obtain ⟨hrenders, -, -⟩ := renders_iff_fits "late: %w" .empty .empty (some cause) hflat
  refine ⟨⟨ofFormat "late: %w", .empty, some cause⟩, .empty, rfl, hnone, ?_⟩
  by_contra hall
  exact hnone (hrenders.2 fun l q hvisits => by_contra fun hfits => hall ⟨l, q, hvisits, hfits⟩)

/-- A general form of 70000 digits, and a fraction of 65536: one place too many is no text. -/
theorem render_places_exceeded :
    (ofFormat "%.70000g\x7bx\x7d").render oneAndAHalf .empty none = .error ⟨69999⟩ ∧
      (ofFormat "%.70000g\x7bx\x7d").verifyPassed oneAndAHalf .empty none = .ok () ∧
      (ofFormat "%.65536f\x7bx\x7d").render oneAndAHalf .empty none = .error ⟨65536⟩ :=
  ⟨rfl, rfl, rfl⟩

end Template

end Mishap
