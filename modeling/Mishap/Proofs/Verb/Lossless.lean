import Mathlib.Data.List.DropRight
import Mishap.Proofs.Record.Satisfaction
import Mishap.Proofs.Text.Digits
import Mishap.Proofs.Verb.Padding

/-!
Whole numbers and bytes that are read back from what verbs make of them. A reader takes off the blanks at the ends, the
sign and the mark of the base, and reads what is left as digits. Main statement: whatever the flags, the width and the
precision, it finds the number, or the bytes, that were formatted.
-/

namespace Mishap

/-- The bytes that a value consists of; a text consists of those of its UTF-8. -/
def Value.rawBytes? : Value → Option (List UInt8)
  | .text s => some s.toUTF8.data.toList
  | .bytes content => some content
  | _ => none

/-- The base that a letter writes whole numbers in. -/
def VerbLetter.base? : VerbLetter → Option Nat
  | default | decimal => some 10
  | binary => some 2
  | octal => some 8
  | hexadecimal _ => some 16
  | _ => none

namespace Verb

variable {verb : Verb} {v : Value} {text : List Char}

/-! ### Reading -/

/-- The mark of a base. The zero that marks octal digits is one of them. -/
def baseMark (verb : Verb) : List Char :=
  match verb.flags.sharp, verb.letter with
  | true, .binary => ['0', 'b']
  | true, .hexadecimal upper => ['0', if upper then 'X' else 'x']
  | _, _ => []

def stripped (text : List Char) : List Char := (text.dropWhile (· == ' ')).rdropWhile (· == ' ')

/-- Whether there is a minus in front, and what is left without a sign. -/
def splitSign : List Char → Bool × List Char
  | '-' :: rest => (true, rest)
  | '+' :: rest => (false, rest)
  | rest => (false, rest)

/-- The number of some digits, of which there must be one at least. -/
def readDigits? (base : Nat) (digits : List Char) : Option Nat :=
  if digits = [] then none else Text.number? base digits

def readInteger? (verb : Verb) (text : List Char) : Option ℤ := do
  let base ← verb.letter.base?
  let (negative, rest) := splitSign (stripped text)
  let n ← readDigits? base (← verb.baseMark.isPrefixOf? rest)
  return if negative then -n else n

/-- The bytes of digits that come in pairs. -/
def readPairs? : List Char → Option (List UInt8)
  | [] => some []
  | [_] => none
  | high :: low :: rest => do
    let n ← readDigits? 16 [high, low]
    return .ofNat n :: (← readPairs? rest)

def readBytes? (verb : Verb) (text : List Char) : Option (List UInt8) :=
  (verb.baseMark.isPrefixOf? (stripped text)).bind readPairs?

/-! ### What is around the digits -/

/-- A layout is filled with blanks in front and behind and with zeros inside. -/
theorem exists_fill_eq (verb : Verb) (layout : Layout) :
    ∃ front zeros behind, (layout.zeroFill = false → zeros = 0) ∧
      verb.fill layout = List.replicate front ' ' ++
        (layout.head ++ (List.replicate zeros '0' ++ layout.body)) ++ List.replicate behind ' ' := by
  let missing := verb.width.getD 0 - (layout.head.length + layout.body.length)
  rw [fill]
  split
  · exact ⟨0, 0, missing, fun _ => rfl, by simp [missing]⟩
  · split
    · next hzero =>
      refine ⟨0, missing, 0, fun hnot => ?_, by simp [missing]⟩
      rw [hnot, Bool.and_false] at hzero
      cases hzero
    · exact ⟨missing, 0, 0, fun _ => rfl, by simp [missing]⟩

theorem stripped_blanks (front behind : Nat) (h : ' ' ∉ text) :
    stripped (List.replicate front ' ' ++ text ++ List.replicate behind ' ') = text := by
  have hkeep : text.rdropWhile (· == ' ') = text :=
    List.rdropWhile_eq_self_iff.2 fun hne hlast => h (eq_of_beq hlast ▸ List.getLast_mem hne)
  have hbehind : (text ++ List.replicate behind ' ').rdropWhile (· == ' ') = text := by
    induction behind with
    | zero => rw [List.replicate_zero, List.append_nil, hkeep]
    | succ behind ih => rw [List.replicate_succ', ← List.append_assoc, List.rdropWhile_concat_pos _ _ _ rfl, ih]
  rw [stripped, List.append_assoc, List.dropWhile_append_of_pos (by simp)]
  cases text with
  | nil =>
    rw [List.nil_append, List.dropWhile_eq_nil_iff.2 (by simp)]
    rfl
  | cons c rest =>
    have hc : ¬ (c == ' ') = true := fun heq => h (eq_of_beq heq ▸ List.mem_cons_self)
    rw [List.cons_append, List.dropWhile_cons_of_neg (p := (· == ' ')) hc, ← List.cons_append, hbehind]

/-- A sign is a blank at most, or tells whether a number is negative. -/
theorem exists_sign_eq (verb : Verb) (negative : Bool) :
    ∃ blanks sign, verb.sign negative = List.replicate blanks ' ' ++ sign ∧ ' ' ∉ sign ∧
      ∀ rest, (∀ c ∈ rest.head?, (Text.digitWorth? c).isSome) → splitSign (sign ++ rest) = (negative, rest) := by
  have hnone : ∀ rest : List Char, (∀ c ∈ rest.head?, (Text.digitWorth? c).isSome) → splitSign rest = (false, rest) := by
    intro rest hrest
    rw [splitSign.eq_def]
    split
    · exact absurd (hrest '-' rfl) (by decide)
    · exact absurd (hrest '+' rfl) (by decide)
    · rfl
  rw [sign]
  cases negative with
  | true => exact ⟨0, ['-'], rfl, by decide, fun rest _ => rfl⟩
  | false =>
    rw [if_neg Bool.false_ne_true]
    split
    · exact ⟨0, ['+'], rfl, by decide, fun rest _ => rfl⟩
    · split
      · exact ⟨1, [], rfl, by decide, hnone⟩
      · exact ⟨0, [], rfl, by decide, hnone⟩

/-- What is put in front of digits is the mark of their base, or one more zero. -/
theorem exists_prefix_eq (verb : Verb) :
    ∃ zeros, (if verb.flags.sharp then radixPrefix verb.letter else []) = verb.baseMark ++ List.replicate zeros '0' := by
  rw [baseMark.eq_def]
  cases verb.flags.sharp with
  | false => exact ⟨0, rfl⟩
  | true =>
    cases verb.letter with
    | octal => exact ⟨1, rfl⟩
    | _ => exact ⟨0, rfl⟩

theorem baseMark_eq (verb : Verb) : verb.baseMark = [] ∨ ∃ c, c ≠ ' ' ∧ verb.baseMark = ['0', c] := by
  rw [baseMark.eq_def]
  split
  · exact .inr ⟨'b', by decide, rfl⟩
  · exact .inr ⟨_, by split <;> decide, rfl⟩
  · exact .inl rfl

theorem blank_not_mem_baseMark (verb : Verb) : ' ' ∉ verb.baseMark := by
  obtain hmark | ⟨c, hc, hmark⟩ := baseMark_eq verb
  · simp [hmark]
  · simp [hmark, hc.symm]

theorem isPrefixOf?_append (front rest : List Char) : front.isPrefixOf? (front ++ rest) = some rest :=
  List.isPrefixOf?_eq_some_iff_append_eq.2 rfl

theorem blank_not_mem_of_number? {base n : Nat} {digits : List Char} (h : Text.number? base digits = some n) :
    ' ' ∉ digits := fun hmem => absurd (Text.isSome_digitWorth? h ' ' hmem) (by decide)

/-! ### Whole numbers -/

theorem number?_digitsIn {base : Nat} (hbase : 1 < base) (hmost : base ≤ 16) (upper : Bool) (n : Nat) :
    Text.number? base (digitsIn base upper n) = some n := by
  rw [digitsIn]
  cases upper with
  | false => exact Text.number?_toDigits hbase hmost n
  | true => exact (Text.number?_map_toUpper base _).trans (Text.number?_toDigits hbase hmost n)

theorem digitsIn_ne_nil {base : Nat} {upper : Bool} {n : Nat} : digitsIn base upper n ≠ [] := by
  rw [digitsIn]
  cases upper with
  | false => exact Nat.toDigits_ne_nil
  | true => exact fun h => Nat.toDigits_ne_nil (List.map_eq_nil_iff.1 h)

/-- A number is laid out in the base that its letter is read in. -/
theorem exists_radix?_letterFor {n : ℤ} {base : Nat} (hletter : verb.letter.base? = some base)
    (hv : v.integer? = some n) : 1 < base ∧ base ≤ 16 ∧ ∃ upper, radix? (verb.letterFor v) = some (base, upper) := by
  obtain ⟨flags, width, precision, letter⟩ := verb
  obtain ⟨rfl, hradix⟩ | ⟨hletterFor, hbase⟩ : (base = 10 ∧ radix? (letterFor ⟨flags, width, precision, letter⟩ v) =
      some (10, false)) ∨ letterFor ⟨flags, width, precision, letter⟩ v = letter ∧ letter ≠ .default := by
    cases letter with
    | default =>
      obtain rfl : 10 = base := Option.some.inj hletter
      cases v with
      | int => exact .inl ⟨rfl, rfl⟩
      | uint => exact .inl ⟨rfl, rfl⟩
      | _ => cases hv
    | _ => exact .inr ⟨rfl, nofun⟩
  · exact ⟨by decide, by decide, false, hradix⟩
  · rw [hletterFor]
    cases letter with
    | default => exact absurd rfl hbase
    | decimal | binary | octal | hexadecimal =>
      obtain rfl := Option.some.inj hletter
      exact ⟨by decide, by decide, _, rfl⟩
    | _ => cases hletter

theorem format?_of_integer {n : ℤ} {base : Nat} {upper : Bool} (hv : v.integer? = some n)
    (hradix : radix? (verb.letterFor v) = some (base, upper)) :
    verb.format? v =
      some (.ok (String.ofList (verb.fill (verb.integerLayout (verb.letterFor v) base upper n)))) := by
  cases v with
  | int m =>
    obtain rfl : m.toInt = n := Option.some.inj hv
    rw [format?_eq, layout?, hradix]
    rfl
  | uint m =>
    obtain rfl : (m.toNat : ℤ) = n := Option.some.inj hv
    rw [format?_eq, layout?, hradix]
    rfl
  | _ => cases hv

/-- The text of a number: blanks, a sign, the mark of the base, its digits behind zeros, and blanks. -/
theorem exists_fill_integerLayout (verb : Verb) (v : Value) (n : ℤ) {base : Nat} (upper : Bool) (hbase : 1 < base) (hmost : base ≤ 16) :
    ∃ front sign number behind, verb.fill (verb.integerLayout (verb.letterFor v) base upper n) =
        List.replicate front ' ' ++ (sign ++ (verb.baseMark ++ number)) ++ List.replicate behind ' ' ∧
      ' ' ∉ sign ∧ (∀ rest, (∀ c ∈ rest.head?, (Text.digitWorth? c).isSome) →
        splitSign (sign ++ rest) = (decide (n < 0), rest)) ∧
      number ≠ [] ∧ Text.number? base number = some n.natAbs := by
  let digits := digitsIn base upper n.natAbs
  let wanted := verb.precision.getD 0 - digits.length
  obtain ⟨front, zeros, behind, -, hfill⟩ := exists_fill_eq verb (verb.integerLayout (verb.letterFor v) base upper n)
  obtain ⟨blanks, sign, hsign, hblank, hsplit⟩ := exists_sign_eq verb (n < 0)
  obtain ⟨more, hprefix⟩ := exists_prefix_eq verb
  let number := List.replicate (more + (zeros + wanted)) '0' ++ digits
  refine ⟨front + blanks, sign, number, behind, ?_, hblank, hsplit,
    fun hnil => digitsIn_ne_nil (List.append_eq_nil_iff.1 hnil).2, ?_⟩
  · rw [hfill]
    simp only [integerLayout, radixPrefix_letterFor, hprefix, hsign, number, ← List.replicate_append_replicate,
      List.append_assoc, wanted, digits]
  · rw [Text.number?_zeros (Nat.lt_trans Nat.zero_lt_one hbase), number?_digitsIn hbase hmost]

/-- Sign, mark and zeros of every kind are told from the digits. -/
theorem readInteger?_fill {n : ℤ} {base : Nat} {upper : Bool} (hbase : 1 < base) (hmost : base ≤ 16)
    (hletter : verb.letter.base? = some base) :
    verb.readInteger? (verb.fill (verb.integerLayout (verb.letterFor v) base upper n)) = some n := by
  obtain ⟨front, sign, number, behind, htext, hblank, hsplit, hne, hnumber⟩ :=
    exists_fill_integerLayout verb v n upper hbase hmost
  have hinside : ' ' ∉ sign ++ (verb.baseMark ++ number) := by
    simp only [List.mem_append, not_or]
    exact ⟨hblank, blank_not_mem_baseMark verb, blank_not_mem_of_number? hnumber⟩
  have hhead : ∀ c ∈ (verb.baseMark ++ number).head?, (Text.digitWorth? c).isSome := by
    intro c hc
    obtain hmark | ⟨mark, -, hmark⟩ := baseMark_eq verb <;> rw [hmark] at hc
    · exact Text.isSome_digitWorth? hnumber c (List.mem_of_mem_head? hc)
    · obtain rfl : '0' = c := Option.some.inj hc
      rfl
  rw [readInteger?, hletter, htext, stripped_blanks _ _ hinside, hsplit _ hhead]
  simp only [Option.bind_eq_bind, Option.bind_some, isPrefixOf?_append, readDigits?, if_neg hne, hnumber, Option.pure_def,
    Option.some.injEq]
  by_cases hnegative : n < 0
  · rw [if_pos (decide_eq_true hnegative)]
    omega
  · rw [if_neg (by simpa using hnegative)]
    omega

/-! ### Bytes -/

theorem utf8Bytes_eq (s : String) : Text.utf8Bytes s = s.toUTF8.data.toList := by
  rw [Text.utf8Bytes, String.toUTF8, ← String.utf8Encode_toList, List.utf8Encode, List.toList_data_toByteArray]

/-- A digit of a byte. -/
theorem exists_digitsIn {d : Nat} (h : d < 16) (upper : Bool) :
    ∃ c, digitsIn 16 upper d = [c] ∧ ∀ n, Text.withDigit? 16 n c = some (n * 16 + d) := by
  rw [digitsIn, Nat.toDigits_of_lt_base h]
  have hdigit : ∀ n, Text.withDigit? 16 n (Nat.digitChar d) = some (n * 16 + d) :=
    Text.withDigit?_digitChar (Nat.le_refl 16) h
  cases upper with
  | false => exact ⟨_, rfl, hdigit⟩
  | true => exact ⟨_, rfl, fun n => (Text.withDigit?_toUpper 16 n _).trans (hdigit n)⟩

theorem readPairs?_hexBytes (upper : Bool) (content : List UInt8) :
    readPairs? (hexBytes upper content) = some content ∧ ' ' ∉ hexBytes upper content := by
  induction content with
  | nil => exact ⟨rfl, List.not_mem_nil⟩
  | cons b rest ih =>
    have hsize : b.toNat < 256 := b.toNat_lt
    obtain ⟨high, hhigh, hread⟩ := exists_digitsIn (show b.toNat / 16 < 16 by omega) upper
    obtain ⟨low, hlow, hreadLow⟩ := exists_digitsIn (show b.toNat % 16 < 16 by omega) upper
    have hbyte : Text.number? 16 [high, low] = some b.toNat := by
      rw [Text.number?_eq, List.foldlM_cons, hread, Option.bind_eq_bind, Option.bind_some, List.foldlM_cons, hreadLow,
        Nat.zero_mul, Nat.zero_add, Nat.div_add_mod']
      rfl
    have htext : hexBytes upper (b :: rest) = [high, low] ++ hexBytes upper rest := by
      rw [hexBytes, List.flatMap_cons, hhigh, hlow]
      rfl
    rw [htext]
    refine ⟨?_, fun hblank => ?_⟩
    · rw [List.cons_append, List.singleton_append, readPairs?, readDigits?, if_neg (List.cons_ne_nil _ _), hbyte, ih.1]
      simp
    · rcases List.mem_append.1 hblank with hpair | hrest
      · exact blank_not_mem_of_number? hbyte hpair
      · exact ih.2 hrest

theorem format?_of_rawBytes {upper : Bool} {content : List UInt8} (hletter : verb.letter = .hexadecimal upper)
    (hv : v.rawBytes? = some content) :
    verb.format? v = some (.ok (String.ofList (verb.fill (verb.hexLayout upper content)))) := by
  obtain ⟨flags, width, precision, letter⟩ := verb
  obtain rfl : letter = .hexadecimal upper := hletter
  cases v with
  | text s =>
    obtain rfl := Option.some.inj hv
    rw [← utf8Bytes_eq]
    rfl
  | bytes content =>
    obtain rfl := Option.some.inj hv
    rfl
  | _ => cases hv

theorem readBytes?_fill {upper : Bool} (hletter : verb.letter = .hexadecimal upper) (content : List UInt8) :
    verb.readBytes? (verb.fill (verb.hexLayout upper content)) = some content := by
  obtain ⟨hread, hblank⟩ := readPairs?_hexBytes upper content
  obtain ⟨front, zeros, behind, hzeros, hfill⟩ := exists_fill_eq verb (verb.hexLayout upper content)
  have hmark : (if verb.flags.sharp then radixPrefix (.hexadecimal upper) else []) = verb.baseMark := by
    rw [baseMark.eq_def, hletter]
    cases verb.flags.sharp <;> rfl
  have htext : verb.fill (verb.hexLayout upper content) =
      List.replicate front ' ' ++ (verb.baseMark ++ hexBytes upper content) ++ List.replicate behind ' ' := by
    rw [hfill, hzeros rfl, hexLayout, hmark]
    rfl
  have hinside : ' ' ∉ verb.baseMark ++ hexBytes upper content := by
    rw [List.mem_append, not_or]
    exact ⟨blank_not_mem_baseMark verb, hblank⟩
  rw [readBytes?, htext, stripped_blanks _ _ hinside, isPrefixOf?_append, Option.bind_some, hread]

/-- Nothing is lost of whole numbers and bytes, whatever the flags, the width and the precision of a verb. A letter for
whole numbers formats every one of them to a text from which it is read, least and greatest included: behind the blanks,
the sign and the mark of the base stand its digits, with zeros in front at most. Hexadecimal letters format every text and
all bytes to pairs of digits, which are read as the same bytes. -/
theorem reads_formatted (verb : Verb) :
    (∀ base, verb.letter.base? = some base → ∀ v n, v.integer? = some n →
      ∃ out, verb.format? v = some (.ok out) ∧ verb.readInteger? out.toList = some n) ∧
    ∀ upper, verb.letter = .hexadecimal upper → ∀ v content, v.rawBytes? = some content →
      ∃ out, verb.format? v = some (.ok out) ∧ verb.readBytes? out.toList = some content := by
  refine ⟨fun base hletter v n hv => ?_, fun upper hletter v content hv => ?_⟩
  · obtain ⟨hbase, hmost, upper, hradix⟩ := exists_radix?_letterFor hletter hv
    refine ⟨_, format?_of_integer hv hradix, ?_⟩
    rw [String.toList_ofList]
    exact readInteger?_fill hbase hmost hletter
  · refine ⟨_, format?_of_rawBytes hletter hv, ?_⟩
    rw [String.toList_ofList]
    exact readBytes?_fill hletter content

/-- The least integer in octal digits, whose mark is a zero among zeros, and a text of three bytes. -/
theorem reads_formatted_least :
    let octal : Verb := ⟨⟨true, false, true, true, true⟩, some 40, none, .octal⟩
    let hexadecimal : Verb := ⟨⟨false, true, true, true, false⟩, some 9, some 1, .hexadecimal true⟩
    octal.letter.base? = some 8 ∧ (Value.int Int64.minValue).integer? = some (-0x8000000000000000) ∧
      hexadecimal.letter = .hexadecimal true ∧ (Value.text "é€").rawBytes? = some [0xC3, 0xA9, 0xE2, 0x82, 0xAC] ∧
      (∃ out, octal.format? (.int Int64.minValue) = some (.ok out) ∧
        octal.readInteger? out.toList = some (-0x8000000000000000)) ∧
      ∃ out, hexadecimal.format? (.text "é€") = some (.ok out) ∧
        hexadecimal.readBytes? out.toList = some [0xC3, 0xA9, 0xE2, 0x82, 0xAC] := by
  intro octal hexadecimal
  have hleast : (Value.int Int64.minValue).integer? = some (-0x8000000000000000) := rfl
  have hbytes : (Value.text "é€").rawBytes? = some [0xC3, 0xA9, 0xE2, 0x82, 0xAC] := by decide
  exact ⟨rfl, hleast, rfl, hbytes, (reads_formatted octal).1 8 rfl _ _ hleast,
    (reads_formatted hexadecimal).2 true rfl _ _ hbytes⟩

end Verb

end Mishap
