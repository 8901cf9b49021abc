import Mishap.Template.Verb

/-!
How verbs fill up to a width. A layout does not look at the width; filling puts one block of fill into it. Main
statement: whether a verb applies and whether it fails is independent of its width, and what it gives with a width is
what it gives without one, with spaces behind it, zeros behind its sign and radix, or spaces in front of it, as many as
are missing.
-/

namespace Mishap

/-- The letters that format numbers; the default one is among them. -/
def VerbLetter.FormatsNumbers : VerbLetter → Prop
  | default | decimal | binary | octal | hexadecimal _ | exponent _ | fixed _ | general _ => True
  | string | quote | truth => False

/-- Whether a number is shown with a minus. A zero can be negative. -/
def Value.isNegative : Value → Bool
  | .int n => n.toInt < 0
  | .float (.finite negative _ _) => negative
  | _ => false

namespace Verb

variable {verb : Verb} {v : Value} {layout : Layout}

def withoutWidth (verb : Verb) : Verb := { verb with width := none }

/-- What stands in front of the digits of a number. -/
def signAndRadix (verb : Verb) (v : Value) : List Char :=
  verb.sign v.isNegative ++ if verb.flags.sharp then radixPrefix verb.letter else []

/-- Where zeros may fill: in an integer without a precision and in a finite floating-point number. -/
def TakesZeros (verb : Verb) : Value → Prop
  | .int _ | .uint _ => verb.precision = none
  | .float (.finite _ _ _) => True
  | _ => False

/-- Whether a value is filled up with zeros, unless it is filled up behind. -/
def ZeroFills (verb : Verb) (v : Value) : Prop :=
  verb.flags.zero = true ∧ verb.TakesZeros v ∧ verb.letter.FormatsNumbers

/-- `verb.Fills v n bare out`: `out` is the text `bare` of the value with a block of `n` fill characters put in. -/
inductive Fills (verb : Verb) (v : Value) (n : Nat) : List Char → List Char → Prop
  | behind {bare : List Char} (minus : verb.flags.minus = true) : Fills verb v n bare (bare ++ List.replicate n ' ')
  | zeros {digits : List Char} (minus : verb.flags.minus = false) (zero : verb.ZeroFills v) :
      Fills verb v n (verb.signAndRadix v ++ digits) (verb.signAndRadix v ++ List.replicate n '0' ++ digits)
  | front {bare : List Char} (minus : verb.flags.minus = false) (zero : ¬ verb.ZeroFills v) :
      Fills verb v n bare (List.replicate n ' ' ++ bare)

/-! ### Layouts -/

theorem layout?_withoutWidth (verb : Verb) (v : Value) : verb.withoutWidth.layout? v = verb.layout? v := by
  cases v <;> rfl

/-- The default letter stands for none that has a prefix. -/
theorem radixPrefix_letterFor (verb : Verb) (v : Value) :
    radixPrefix (verb.letterFor v) = radixPrefix verb.letter := by
  obtain ⟨flags, width, precision, letter⟩ := verb
  cases letter with
  | default =>
    cases v with
    | text s =>
      rw [letterFor]
      cases flags.sharp <;> rfl
    | _ => rfl
  | _ => rfl

theorem formatsNumbers_of_letterFor (h : (verb.letterFor v).FormatsNumbers) : verb.letter.FormatsNumbers := by
  obtain ⟨flags, width, precision, letter⟩ := verb
  cases letter with
  | default => trivial
  | _ => exact h

/-- What filling needs to know of a layout: zeros may fill the numbers that take them and nothing else, and then sign
and radix are what stands in front of them. -/
structure LaidOut (verb : Verb) (v : Value) (layout : Layout) : Prop where
  zeroFill : layout.zeroFill = true ↔ verb.TakesZeros v ∧ verb.letter.FormatsNumbers
  head : layout.zeroFill = true → layout.head = verb.signAndRadix v

theorem laidOut_plain (hv : ¬ verb.TakesZeros v) (body : List Char) : verb.LaidOut v (plainLayout body) where
  zeroFill := by simp [plainLayout, hv]
  head := by simp [plainLayout]

theorem laidOut_integer {base : Nat × Bool} {n : Int} (hbase : radix? (verb.letterFor v) = some base)
    (hv : verb.TakesZeros v ↔ verb.precision = none) (hn : decide (n < 0) = v.isNegative) :
    verb.LaidOut v (verb.integerLayout (verb.letterFor v) base.1 base.2 n) where
  zeroFill := by
    have hletter : (verb.letterFor v).FormatsNumbers := by
      generalize verb.letterFor v = letter at hbase
      cases letter <;> trivial
    simp [integerLayout, hv, formatsNumbers_of_letterFor hletter]
  head _ := by rw [integerLayout, radixPrefix_letterFor, hn, signAndRadix]

theorem laidOut_float {x : Binary64} (hletter : (verb.letterFor (.float x)).FormatsNumbers)
    (hplain : radixPrefix (verb.letterFor (.float x)) = [])
    (h : verb.floatLayout (verb.letterFor (.float x)) x = .ok layout) : verb.LaidOut (.float x) layout := by
  cases x with
  | finite negative exponent fraction =>
    rw [floatLayout] at h
    cases hchars : verb.magnitudeChars (verb.letterFor (.float (.finite negative exponent fraction))) exponent fraction with
    | error e => rw [hchars] at h; cases h
    | ok chars =>
      rw [hchars] at h
      obtain rfl := Except.ok.inj h
      rw [radixPrefix_letterFor] at hplain
      refine ⟨?_, fun _ => ?_⟩
      · simp [TakesZeros, formatsNumbers_of_letterFor hletter]
      · simp [signAndRadix, hplain, Value.isNegative]
  | _ =>
    obtain rfl := Except.ok.inj h
    exact laidOut_plain id _

theorem laidOut_of_layout? (h : verb.layout? v = some (.ok layout)) : verb.LaidOut v layout := by
  cases v with
  | int n =>
    obtain ⟨base, hbase, heq⟩ := Option.map_eq_some_iff.1 h
    obtain rfl := Except.ok.inj heq
    exact laidOut_integer hbase Iff.rfl rfl
  | uint n =>
    obtain ⟨base, hbase, heq⟩ := Option.map_eq_some_iff.1 h
    obtain rfl := Except.ok.inj heq
    exact laidOut_integer hbase Iff.rfl rfl
  | float x =>
    simp only [layout?] at h
    cases hletter : verb.letterFor (.float x) with
    | exponent | fixed | general =>
      simp only [hletter, Option.some.injEq] at h
      rw [← hletter] at h
      exact laidOut_float (by rw [hletter]; trivial) (by rw [hletter]; rfl) h
    | _ =>
      rw [hletter] at h
      cases h
  | _ =>
    simp only [layout?] at h
    split at h <;> cases h <;> exact laidOut_plain id _

/-! ### Filling -/

theorem fill_withoutWidth (verb : Verb) (layout : Layout) :
    verb.withoutWidth.fill layout = layout.head ++ layout.body := by
  simp [fill, withoutWidth]

theorem length_fill (verb : Verb) (layout : Layout) :
    (verb.fill layout).length = max (verb.width.getD 0) (layout.head ++ layout.body).length := by
  rw [fill]
  split
  · simp only [List.length_append, List.length_replicate]
    omega
  · split <;> simp only [List.length_append, List.length_replicate] <;> omega

/-- A layout is filled by as many characters as are missing to the width. -/
theorem fills_fill (h : verb.LaidOut v layout) :
    verb.Fills v (verb.width.getD 0 - (layout.head ++ layout.body).length) (layout.head ++ layout.body)
      (verb.fill layout) := by
  have hzeros : (verb.flags.zero && layout.zeroFill) = true ↔ verb.ZeroFills v := by
    rw [Bool.and_eq_true, h.zeroFill, ZeroFills]
  rw [List.length_append, fill]
  cases hminus : verb.flags.minus with
  | true => exact .behind hminus
  | false =>
    rw [if_neg Bool.false_ne_true]
    split
    · next hzero =>
      rw [h.head (Bool.and_eq_true_iff.1 hzero).2]
      exact .zeros hminus (hzeros.1 hzero)
    · next hzero =>
      rw [List.append_assoc]
      exact .front hminus fun hfills => hzero (hzeros.2 hfills)

theorem format?_eq (verb : Verb) (v : Value) :
    verb.format? v = (verb.layout? v).map (Except.map fun layout => String.ofList (verb.fill layout)) :=
  rfl

/-- Whether a verb applies to a value, and whether formatting it fails, is independent of the width. Where a verb gives
a text without its width, it gives one with it of the greater of the two lengths, in characters, and that is the text
with one block of fill in it. -/
theorem fills_to_width (verb : Verb) (v : Value) :
    ((verb.format? v).isSome = (verb.withoutWidth.format? v).isSome) ∧
    (∀ e, verb.format? v = some (.error e) ↔ verb.withoutWidth.format? v = some (.error e)) ∧
    ∀ bare, verb.withoutWidth.format? v = some (.ok bare) →
      ∃ out, verb.format? v = some (.ok out) ∧
        out.length = max (verb.width.getD 0) bare.length ∧
        verb.Fills v (verb.width.getD 0 - bare.length) bare.toList out.toList := by
  rw [format?_eq, format?_eq, layout?_withoutWidth]
  cases hlayout : verb.layout? v with
  | none => simp
  | some laid =>
    cases laid with
    | error e => simp [Except.map]
    | ok layout =>
      refine ⟨rfl, fun e => by simp [Except.map], fun bare hbare => ⟨String.ofList (verb.fill layout), rfl, ?_⟩⟩
      have hbare : String.ofList (verb.withoutWidth.fill layout) = bare := Except.ok.inj (Option.some.inj hbare)
      rw [← hbare, fill_withoutWidth, String.toList_ofList, String.toList_ofList, String.length_ofList,
        String.length_ofList]
      exact ⟨length_fill verb layout, fills_fill (laidOut_of_layout? hlayout)⟩

/-- Zeros go behind a sign and the mark of a radix. -/
theorem fills_to_width_hexadecimal :
    let verb : Verb := ⟨⟨false, false, true, true, false⟩, some 8, none, .hexadecimal false⟩
    verb.withoutWidth.format? (.int (-255)) = some (.ok "-0xff") ∧
      ∃ out, verb.format? (.int (-255)) = some (.ok out) ∧ out.length = 8 ∧
        verb.Fills (.int (-255)) 3 "-0xff".toList out.toList := by
  intro verb
  have hbare : verb.withoutWidth.format? (.int (-255)) = some (.ok "-0xff") := rfl
  exact ⟨hbare, (fills_to_width verb (.int (-255))).2.2 "-0xff" hbare⟩

end Verb

end Mishap
