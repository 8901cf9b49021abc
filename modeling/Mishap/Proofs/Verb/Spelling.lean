import Mishap.Proofs.Text.Digits
import Mishap.Template.Verb

/-!
How verbs are spelled. Main statement: the texts that are read as a verb are its spellings, flags, width, precision and
letter in this order, whatever the length of its numbers; and every verb that asks for no more than the most padding is
spelled by its printed form.
-/

namespace Mishap

/-! ### Letters -/

namespace VerbLetter

theorem ofChar?_toChar (letter : VerbLetter) : ofChar? letter.toChar = some letter := by
  cases letter with
  | hexadecimal upper => cases upper <;> rfl
  | exponent upper => cases upper <;> rfl
  | fixed upper => cases upper <;> rfl
  | general upper => cases upper <;> rfl
  | _ => rfl

theorem ofChar?_eq_some_iff {c : Char} {letter : VerbLetter} : ofChar? c = some letter ↔ letter.toChar = c := by
  constructor
  · intro h
    simpa using List.find?_some h
  · rintro rfl
    exact letter.ofChar?_toChar

theorem map_toChar_all : all.map toChar = "vsqdboxXeEfFgGt".toList := by decide

theorem mem_all (letter : VerbLetter) : letter ∈ all := List.mem_of_find?_eq_some letter.ofChar?_toChar

theorem exists_toChar_eq_iff {c : Char} : (∃ letter : VerbLetter, letter.toChar = c) ↔ c ∈ "vsqdboxXeEfFgGt".toList := by
  rw [← map_toChar_all, List.mem_map]
  simp [mem_all]

/-- A letter is taken for nothing that can stand in front of it. -/
theorem toChar_apart (letter : VerbLetter) :
    letter.toChar ∉ ['+', '-', '#', '0', ' '] ∧ letter.toChar.isDigit = false ∧ letter.toChar ≠ '.' := by
  cases letter with
  | hexadecimal upper => cases upper <;> decide
  | exponent upper => cases upper <;> decide
  | fixed upper => cases upper <;> decide
  | general upper => cases upper <;> decide
  | _ => decide

end VerbLetter

/-! ### Flags -/

namespace VerbFlags

/-- The characters of the flags. -/
def chars : List Char := ['+', '-', '#', '0', ' ']

/-- The only digit among the flags, which a width must not begin with. -/
theorem eq_zero_of_isDigit {c : Char} (hflag : c ∈ chars) (hdigit : c.isDigit) : c = '0' := by
  have hall : (chars.all fun c => !c.isDigit || c == '0') = true := rfl
  simpa [hdigit] using List.all_eq_true.1 hall c hflag

/-- The flags that occur in a run of characters. -/
def ofRun (run : List Char) : VerbFlags :=
  ⟨run.contains '+', run.contains '-', run.contains '#', run.contains '0', run.contains ' '⟩

/-- The flags that are set in one of two. -/
def union (f g : VerbFlags) : VerbFlags :=
  ⟨f.plus || g.plus, f.minus || g.minus, f.sharp || g.sharp, f.zero || g.zero, f.space || g.space⟩

def toRun (flags : VerbFlags) : List Char :=
  (if flags.plus then ['+'] else []) ++ (if flags.minus then ['-'] else []) ++ (if flags.sharp then ['#'] else []) ++
    (if flags.zero then ['0'] else []) ++ (if flags.space then [' '] else [])

theorem none_union (f : VerbFlags) : none.union f = f := rfl

theorem union_union_ofRun (f : VerbFlags) (c : Char) (run : List Char) :
    (f.union (ofRun [c])).union (ofRun run) = f.union (ofRun (c :: run)) := by
  simp [union, ofRun, Bool.or_assoc]

theorem union_ofRun_nil (f : VerbFlags) : f.union (ofRun []) = f := by
  simp [union, ofRun]

theorem set?_eq (flags : VerbFlags) (c : Char) :
    flags.set? c = if c ∈ chars then some (flags.union (ofRun [c])) else Option.none := by
  unfold set?
  split
  case h_6 => simp_all [chars]
  all_goals simp [chars, union, ofRun]

theorem read_eq (flags : VerbFlags) (text : List Char) :
    flags.read text = (flags.union (ofRun (text.takeWhile chars.contains)), text.dropWhile chars.contains) := by
  induction text generalizing flags with
  | nil => rw [read, List.takeWhile_nil, List.dropWhile_nil, union_ofRun_nil]
  | cons c rest ih =>
    rw [read, set?_eq]
    by_cases hc : c ∈ chars
    · have hflag : chars.contains c = true := List.contains_iff_mem.2 hc
      rw [if_pos hc, List.takeWhile_cons_of_pos hflag, List.dropWhile_cons_of_pos hflag]
      exact (ih _).trans (by rw [union_union_ofRun])
    · have hflag : ¬ chars.contains c = true := fun h => hc (List.contains_iff_mem.1 h)
      rw [if_neg hc, List.takeWhile_cons_of_neg hflag, List.dropWhile_cons_of_neg hflag, union_ofRun_nil]

theorem ofRun_toRun (flags : VerbFlags) : ofRun flags.toRun = flags := by
  obtain ⟨plus, minus, sharp, zero, space⟩ := flags
  cases plus <;> cases minus <;> cases sharp <;> cases zero <;> cases space <;> rfl

theorem toRun_subset (flags : VerbFlags) : flags.toRun ⊆ chars := by
  obtain ⟨plus, minus, sharp, zero, space⟩ := flags
  cases plus <;> cases minus <;> cases sharp <;> cases zero <;> cases space <;> decide

end VerbFlags

namespace Verb

/-! ### Numbers -/

/-- Counting with a greatest number is counting and taking the greatest for all beyond it. -/
theorem foldl_appendDigit (digits : List Char) (n : Nat) :
    digits.foldl appendDigit (min mostCounted n) = min mostCounted (Nat.ofDigitChars 10 digits n) := by
  induction digits generalizing n with
  | nil => rfl
  | cons c rest ih =>
    have hstep : appendDigit (min mostCounted n) c = min mostCounted (10 * n + (c.toNat - '0'.toNat)) := by
      rw [appendDigit]
      omega
    rw [List.foldl_cons, hstep, ih, Nat.ofDigitChars_cons]

/-- A run of characters and what may follow it are taken apart again. -/
theorem span_append {p : Char → Bool} {run rest : List Char} (hrun : ∀ c ∈ run, p c) (hrest : ∀ c ∈ rest.head?, p c = false) :
    (run ++ rest).takeWhile p = run ∧ (run ++ rest).dropWhile p = rest := by
  rw [List.takeWhile_append_of_pos hrun, List.dropWhile_append_of_pos hrun]
  cases rest with
  | nil => simp
  | cons c rest =>
    have hc : ¬ p c = true := Bool.eq_false_iff.1 (hrest c rfl)
    rw [List.takeWhile_cons_of_neg hc, List.dropWhile_cons_of_neg hc, List.append_nil]
    exact ⟨rfl, rfl⟩

/-- The number that digits stand for; no digits stand for none. -/
def number? (digits : List Char) : Option Nat :=
  if digits = [] then none else some (Nat.ofDigitChars 10 digits 0)

theorem getD_number? (digits : List Char) : (number? digits).getD 0 = Nat.ofDigitChars 10 digits 0 := by
  cases digits <;> rfl

theorem readNumber_eq (text : List Char) :
    readNumber text = ((number? (text.takeWhile Char.isDigit)).map (min mostCounted), text.dropWhile Char.isDigit) := by
  rw [readNumber.eq_def, number?]
  split
  · next hnone =>
    have htext : text.takeWhile Char.isDigit ++ text.dropWhile Char.isDigit = text := List.takeWhile_append_dropWhile
    rw [hnone, List.nil_append] at htext
    rw [hnone, if_pos rfl, htext]
    rfl
  · next hsome =>
    rw [if_neg hsome, Option.map_some, ← foldl_appendDigit, Nat.min_zero]

theorem readNumber_append {digits rest : List Char} (hdigits : ∀ c ∈ digits, c.isDigit)
    (hrest : ∀ c ∈ rest.head?, c.isDigit = false) :
    readNumber (digits ++ rest) = ((number? digits).map (min mostCounted), rest) := by
  obtain ⟨htake, hdrop⟩ := span_append hdigits hrest
  rw [readNumber_eq, htake, hdrop]

theorem exists_of_readNumber {text rest : List Char} {n : Option Nat} (h : readNumber text = (n, rest)) :
    ∃ digits, text = digits ++ rest ∧ (∀ c ∈ digits, c.isDigit) ∧ n = (number? digits).map (min mostCounted) := by
  rw [readNumber_eq] at h
  obtain ⟨rfl, rfl⟩ := Prod.mk.inj h
  exact ⟨_, List.takeWhile_append_dropWhile.symm, fun c hc => List.all_eq_true.1 List.all_takeWhile c hc, rfl⟩

/-- A number that may be asked for is far from the greatest that is counted. -/
theorem map_min_eq {n : Option Nat} (h : (n.map (min mostCounted)).getD 0 ≤ mostPadding) :
    n.map (min mostCounted) = n := by
  cases n with
  | none => rfl
  | some n =>
    simp only [Option.map_some, Option.getD_some, mostCounted, mostPadding, Option.some.injEq] at h ⊢
    omega

theorem map_min_of_le {n : Option Nat} (h : n.getD 0 ≤ mostPadding) : n.map (min mostCounted) = n := by
  refine map_min_eq (Nat.le_trans ?_ h)
  cases n with
  | none => exact Nat.le_refl 0
  | some n => exact Nat.min_le_right ..

/-! ### Spellings -/

/-- The spellings of a width: none, or digits that do not begin with a zero. -/
inductive SpellsWidth : List Char → Option Nat → Prop
  | none : SpellsWidth [] none
  | some {first : Char} {rest : List Char} (digits : ∀ c ∈ first :: rest, c.isDigit) (leading : first ≠ '0') :
      SpellsWidth (first :: rest) (some (Nat.ofDigitChars 10 (first :: rest) 0))

/-- The spellings of a precision: none, or a point and any digits; no digits are zero. -/
inductive SpellsPrecision : List Char → Option Nat → Prop
  | none : SpellsPrecision [] none
  | some {run : List Char} (digits : ∀ c ∈ run, c.isDigit) :
      SpellsPrecision ('.' :: run) (some (Nat.ofDigitChars 10 run 0))

/-- The spellings of a verb: a run of its flags, its width, its precision and its letter. -/
def SpelledBy (verb : Verb) (text : List Char) : Prop :=
  ∃ flags width precision, text = flags ++ width ++ precision ++ [verb.letter.toChar] ∧
    (∀ c ∈ flags, c ∈ VerbFlags.chars) ∧ verb.flags = VerbFlags.ofRun flags ∧
    SpellsWidth width verb.width ∧ SpellsPrecision precision verb.precision ∧
    verb.width.getD 0 ≤ 1000000 ∧ verb.precision.getD 0 ≤ 1000000

/-- A verb as it is printed. -/
def print (verb : Verb) : List Char :=
  verb.flags.toRun ++ verb.width.elim [] (Nat.toDigits 10) ++
    (verb.precision.elim [] fun p => '.' :: Nat.toDigits 10 p) ++ [verb.letter.toChar]

section Reading

variable {run rest : List Char}

theorem spellsWidth_number? (hdigits : ∀ c ∈ run, c.isDigit) (hleading : run.head? ≠ some '0') :
    SpellsWidth run (number? run) := by
  cases run with
  | nil => exact .none
  | cons first rest => exact .some hdigits fun hzero => hleading (congrArg some hzero)

theorem readNumber_of_spellsWidth {width : Option Nat} (h : SpellsWidth run width) (hmost : width.getD 0 ≤ mostPadding)
    (hrest : ∀ c ∈ rest.head?, c.isDigit = false) : readNumber (run ++ rest) = (width, rest) := by
  cases h with
  | none => exact readNumber_append (by simp) hrest
  | @some first rest digits leading =>
    have hnumber : number? (first :: rest) = some (Nat.ofDigitChars 10 (first :: rest) 0) := rfl
    rw [readNumber_append digits hrest, hnumber, map_min_of_le hmost]

theorem readPrecision_of_spells {precision : Option Nat} (h : SpellsPrecision run precision)
    (hmost : precision.getD 0 ≤ mostPadding) (hrest : ∀ c ∈ rest.head?, c.isDigit = false ∧ c ≠ '.') :
    readPrecision (run ++ rest) = (precision, rest) := by
  cases h with
  | none =>
    rw [List.nil_append, readPrecision.eq_def]
    split
    · exact absurd rfl (hrest '.' rfl).2
    · rfl
  | @some run digits =>
    have hnumber := readNumber_append digits fun c hc => (hrest c hc).1
    have hvalue : ((number? run).map (min mostCounted)).getD 0 = Nat.ofDigitChars 10 run 0 := by
      rw [map_min_of_le, getD_number?]
      rwa [getD_number?]
    rw [List.cons_append, readPrecision]
    simp only [hnumber, hvalue]

theorem SpellsPrecision.head?_append {precision : Option Nat} (h : SpellsPrecision run precision) (letter : VerbLetter) :
    ∀ c ∈ (run ++ [letter.toChar]).head?, c.isDigit = false ∧ c ∉ VerbFlags.chars := by
  intro c hc
  cases h with
  | none =>
    obtain rfl : letter.toChar = c := Option.some.inj hc
    exact ⟨letter.toChar_apart.2.1, letter.toChar_apart.1⟩
  | some =>
    obtain rfl : '.' = c := Option.some.inj hc
    decide

/-- What stands behind the flags does not begin with a flag. -/
theorem SpellsWidth.head?_append {width : Option Nat} (h : SpellsWidth run width)
    (hrest : ∀ c ∈ rest.head?, c ∉ VerbFlags.chars) : ∀ c ∈ (run ++ rest).head?, c ∉ VerbFlags.chars := by
  cases h with
  | none => exact hrest
  | @some first rest digits leading =>
    intro c hc hflag
    obtain rfl : first = c := Option.some.inj hc
    exact leading (VerbFlags.eq_zero_of_isDigit hflag (digits first List.mem_cons_self))

theorem ofChars?_of_spelledBy {verb : Verb} {text : List Char} (h : verb.SpelledBy text) :
    ofChars? text = some verb := by
  obtain ⟨flags, width, precision, rfl, hflags, hset, hwidth, hprecision, hmostWidth, hmostPrecision⟩ := h
  have hbehind := hprecision.head?_append verb.letter
  have hread : VerbFlags.none.read (flags ++ (width ++ (precision ++ [verb.letter.toChar]))) =
      (verb.flags, width ++ (precision ++ [verb.letter.toChar])) := by
    have hnoFlag := hwidth.head?_append fun c hc => (hbehind c hc).2
    obtain ⟨htake, hdrop⟩ := span_append (p := VerbFlags.chars.contains)
      (fun c hc => List.contains_iff_mem.2 (hflags c hc))
      fun c hc => Bool.eq_false_iff.2 fun hflag => hnoFlag c hc (List.contains_iff_mem.1 hflag)
    rw [VerbFlags.read_eq, htake, hdrop, VerbFlags.none_union, hset]
  have hnumber : readNumber (width ++ (precision ++ [verb.letter.toChar])) =
      (verb.width, precision ++ [verb.letter.toChar]) :=
    readNumber_of_spellsWidth hwidth hmostWidth fun c hc => (hbehind c hc).1
  have hpoint : readPrecision (precision ++ [verb.letter.toChar]) = (verb.precision, [verb.letter.toChar]) := by
    refine readPrecision_of_spells hprecision hmostPrecision fun c hc => ?_
    obtain rfl : verb.letter.toChar = c := Option.some.inj hc
    exact verb.letter.toChar_apart.2
  simp only [List.append_assoc, ofChars?, hread, hnumber, hpoint]
  rw [if_pos ⟨hmostWidth, hmostPrecision⟩, verb.letter.ofChar?_toChar]
  rfl

theorem exists_spellsWidth {text : List Char} {width : Option Nat} (h : readNumber text = (width, rest))
    (hmost : width.getD 0 ≤ mostPadding) (hleading : text.head? ≠ some '0') :
    ∃ run, text = run ++ rest ∧ SpellsWidth run width := by
  obtain ⟨digits, rfl, hdigits, rfl⟩ := exists_of_readNumber h
  refine ⟨digits, rfl, ?_⟩
  rw [map_min_eq hmost]
  refine spellsWidth_number? hdigits fun hzero => hleading ?_
  rw [List.head?_append, hzero]
  rfl

theorem exists_spellsPrecision {text : List Char} {precision : Option Nat} (h : readPrecision text = (precision, rest))
    (hmost : precision.getD 0 ≤ mostPadding) : ∃ run, text = run ++ rest ∧ SpellsPrecision run precision := by
  rw [readPrecision.eq_def] at h
  split at h
  · next behind =>
    rcases hnumber : readNumber behind with ⟨number, after⟩
    rw [hnumber] at h
    obtain ⟨rfl, rfl⟩ := Prod.mk.inj h
    obtain ⟨digits, rfl, hdigits, rfl⟩ := exists_of_readNumber hnumber
    refine ⟨'.' :: digits, rfl, ?_⟩
    rw [map_min_eq hmost, getD_number?]
    exact .some hdigits
  · obtain ⟨rfl, rfl⟩ := Prod.mk.inj h
    exact ⟨[], rfl, .none⟩

theorem spelledBy_of_ofChars? {verb : Verb} {text : List Char} (h : ofChars? text = some verb) :
    verb.SpelledBy text := by
  let flags := text.takeWhile VerbFlags.chars.contains
  let behind := text.dropWhile VerbFlags.chars.contains
  have htext : text = flags ++ behind := List.takeWhile_append_dropWhile.symm
  have hflags : ∀ c ∈ flags, c ∈ VerbFlags.chars := fun c hc =>
    List.contains_iff_mem.1 (List.all_eq_true.1 List.all_takeWhile c hc)
  have hleading : behind.head? ≠ some '0' := by
    intro hzero
    have hnot := List.head?_dropWhile_not VerbFlags.chars.contains text
    rw [show (text.dropWhile VerbFlags.chars.contains).head? = some '0' from hzero] at hnot
    exact absurd hnot (by decide)
  rcases hnumber : readNumber behind with ⟨width, afterWidth⟩
  rcases hpoint : readPrecision afterWidth with ⟨precision, afterPrecision⟩
  have hread : VerbFlags.none.read text = (VerbFlags.ofRun flags, behind) := VerbFlags.read_eq _ _
  simp only [ofChars?, hread, hnumber, hpoint] at h
  split at h
  · next hmost =>
    split at h
    · next c =>
      obtain ⟨letter, hletter, rfl⟩ := Option.map_eq_some_iff.1 h
      obtain ⟨run, hrun, hwidth⟩ := exists_spellsWidth hnumber hmost.1 hleading
      obtain ⟨digits, hdigits, hprecision⟩ := exists_spellsPrecision hpoint hmost.2
      refine ⟨flags, run, digits, ?_, hflags, rfl, hwidth, hprecision, hmost⟩
      rw [htext, hrun, hdigits, VerbLetter.ofChar?_eq_some_iff.1 hletter, List.append_assoc, List.append_assoc]
    · cases h
  · cases h

end Reading

/-! ### Printed verbs -/

theorem spellsWidth_toDigits {n : Nat} (h : 0 < n) : SpellsWidth (Nat.toDigits 10 n) (some n) := by
  have hspells := spellsWidth_number? (fun c hc => Nat.isDigit_of_mem_toDigits (by decide) (by decide) hc)
    (Text.head?_toDigits h)
  rwa [number?, if_neg Nat.toDigits_ne_nil, Nat.ofDigitChars_ten_toDigits] at hspells

theorem spellsPrecision_toDigits (n : Nat) : SpellsPrecision ('.' :: Nat.toDigits 10 n) (some n) := by
  have hdigits : ∀ c ∈ Nat.toDigits 10 n, c.isDigit := fun c hc => Nat.isDigit_of_mem_toDigits (by decide) (by decide) hc
  have hspells := SpellsPrecision.some hdigits
  rwa [Nat.ofDigitChars_ten_toDigits] at hspells

theorem spelledBy_print {verb : Verb} (hwidth : ∀ w ∈ verb.width, 1 ≤ w ∧ w ≤ 1000000)
    (hprecision : ∀ p ∈ verb.precision, p ≤ 1000000) : verb.SpelledBy verb.print := by
  obtain ⟨flags, width, precision, letter⟩ := verb
  refine ⟨_, _, _, rfl, fun c hc => flags.toRun_subset hc, flags.ofRun_toRun.symm, ?_, ?_, ?_, ?_⟩
  · cases width with
    | none => exact .none
    | some w => exact spellsWidth_toDigits (hwidth w rfl).1
  · cases precision with
    | none => exact .none
    | some p => exact spellsPrecision_toDigits p
  · cases width with
    | none => exact Nat.zero_le _
    | some w => exact (hwidth w rfl).2
  · cases precision with
    | none => exact Nat.zero_le _
    | some p => exact hprecision p rfl

/-- The texts that are read as a verb are its spellings, so that a text is read exactly if it spells a verb: any run of
flags, a width that does not begin with a zero, a precision, which is zero behind a lone point, and one of fifteen
letters. Numbers may be of any length, and none beyond a million is taken. Verbs are read from their printed form. -/
theorem reads_spellings :
    (∀ text verb, ofText? text = some verb ↔ verb.SpelledBy text.toList) ∧
    (∀ c, (∃ letter : VerbLetter, letter.toChar = c) ↔ c ∈ "vsqdboxXeEfFgGt".toList) ∧
    ∀ verb : Verb, (∀ w ∈ verb.width, 1 ≤ w ∧ w ≤ 1000000) → (∀ p ∈ verb.precision, p ≤ 1000000) →
      ofText? (String.ofList verb.print) = some verb := by
  refine ⟨fun text verb => ⟨spelledBy_of_ofChars?, ofChars?_of_spelledBy⟩, fun c => VerbLetter.exists_toChar_eq_iff,
    fun verb hwidth hprecision => ?_⟩
  rw [ofText?, String.toList_ofList]
  exact ofChars?_of_spelledBy (spelledBy_print hwidth hprecision)

/-- The greatest width, behind a zero that is a flag. -/
theorem reads_spellings_widest :
    (∀ w ∈ some 1000000, 1 ≤ w ∧ w ≤ 1000000) ∧ (∀ p ∈ some 7, p ≤ 1000000) ∧
      ofText? "-01000000.7d" = some ⟨⟨false, true, false, true, false⟩, some 1000000, some 7, .decimal⟩ := by
  have hwidth : ∀ w ∈ some 1000000, 1 ≤ w ∧ w ≤ 1000000 := by simp
  have hprecision : ∀ p ∈ some 7, p ≤ 1000000 := by simp
  exact ⟨hwidth, hprecision,
    reads_spellings.2.2 ⟨⟨false, true, false, true, false⟩, some 1000000, some 7, .decimal⟩ hwidth hprecision⟩

end Verb

end Mishap
