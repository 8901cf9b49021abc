import Mathlib.Data.List.Forall2
import Mishap.Proofs.Json.Escaping
import Mishap.Proofs.Json.Numbers

/-!
JSON texts and their lexemes. Main statement: the text that a tree is rendered to is scanned to the lexemes of the tree,
as long as every number in it is read back from its text.
-/

namespace Mishap.Json

/-! ### The trees that are read back -/

@[elab_as_elim, induction_eliminator]
theorem induct {motive : Json → Prop} (null : motive .null) (bool : ∀ b, motive (.bool b))
    (integer : ∀ n, motive (.integer n)) (float : ∀ x, motive (.float x)) (text : ∀ s, motive (.text s))
    (array : ∀ items, (∀ j ∈ items, motive j) → motive (.array items))
    (object : ∀ members, (∀ member ∈ members, motive member.2) → motive (.object members)) (j : Json) : motive j :=
  @Json.rec motive (fun items => ∀ j ∈ items, motive j) (fun members => ∀ member ∈ members, motive member.2)
    (fun member => motive member.2) null bool integer float text array object nofun
    (fun _ _ hhead hrest => List.forall_mem_cons.2 ⟨hhead, hrest⟩) nofun
    (fun _ _ hhead hrest => List.forall_mem_cons.2 ⟨hhead, hrest⟩) (fun _ _ h => h) j

/-- Every number in the tree is read back from the text that it is rendered to. -/
inductive Faithful : Json → Prop
  | null : Faithful .null
  | bool (b : Bool) : Faithful (.bool b)
  | integer {n : Int} (h : readNumber? (integerText n).toList = some (.integer n)) : Faithful (.integer n)
  | float {x : Binary64} (h : readNumber? (floatText x).toList = some (.float x)) : Faithful (.float x)
  | text (s : String) : Faithful (.text s)
  | array {items : List Json} (h : ∀ j ∈ items, Faithful j) : Faithful (.array items)
  | object {members : List (String × Json)} (h : ∀ member ∈ members, Faithful member.2) : Faithful (.object members)

mutual

/-- The lexemes of a tree. -/
def lexemes : Json → List Lexeme
  | array items => .opening .array :: ([.comma].intercalate (itemLexemes items) ++ [.closing .array])
  | object members => .opening .object :: ([.comma].intercalate (memberLexemes members) ++ [.closing .object])
  | j => [.scalar j]
termination_by structural j => j

def itemLexemes : List Json → List (List Lexeme)
  | [] => []
  | j :: rest => j.lexemes :: itemLexemes rest
termination_by structural items => items

def memberLexemes : List (String × Json) → List (List Lexeme)
  | [] => []
  | (name, j) :: rest => (.scalar (.text name) :: .colon :: j.lexemes) :: memberLexemes rest
termination_by structural members => members

end

/-! ### Runs of the scanner -/

namespace Lexeme

namespace Scan

def reads? (s : Scan) (text : List Char) : Option Scan := text.foldlM step? s

variable {s : Scan} {found : List Lexeme} {text : List Char}

theorem reads?_append (s : Scan) (front behind : List Char) :
    s.reads? (front ++ behind) = (s.reads? front).bind (·.reads? behind) := by
  rw [reads?, List.foldlM_append]
  rfl

theorem reads?_cons (s : Scan) (c : Char) (rest : List Char) : s.reads? (c :: rest) = (s.step? c).bind (·.reads? rest) := by
  rw [reads?, List.foldlM_cons]
  rfl

/-- Nothing is unfinished but a word perhaps, and with it these lexemes have been found. -/
def Settled (s : Scan) (found : List Lexeme) : Prop := s.endWord? = some ⟨found, .nothing⟩

theorem settled_nothing (found : List Lexeme) : Settled ⟨found, .nothing⟩ found := rfl

theorem Settled.outside (h : s.Settled found) (c : Char) : s.step? c = s.outside? c := by
  obtain ⟨before, unfinished⟩ := s
  cases unfinished with
  | nothing => rfl
  | word read => rfl
  | text read => cases h
  | escape read => cases h

/-- Outside of texts a mark ends the word in front of it. -/
theorem Settled.step?_mark (h : s.Settled found) {c : Char} {l : Lexeme} (hmark : ofMark? c = some l) :
    s.step? c = some ⟨l :: found, .nothing⟩ := by
  have hblank : isBlank c = false := by
    rw [ofMark?.eq_def] at hmark
    split at hmark <;> first | rfl | cases hmark
  have hquote : c ≠ '"' := by
    rintro rfl
    cases hmark
  rw [h.outside, outside?, hblank, if_neg Bool.false_ne_true, if_neg hquote, hmark]
  exact congrArg (Option.map _) h

theorem Settled.step?_quote (h : s.Settled found) : s.step? '"' = some ⟨found, .text []⟩ := by
  rw [h.outside, outside?, if_neg (by decide), if_pos rfl]
  exact congrArg (Option.map _) h

/-! #### Words -/

/-- Whether a character stands for nothing else outside of texts. -/
def isWordChar (c : Char) : Bool := !(isBlank c || c == '"' || (ofMark? c).isSome)

theorem isWordChar_of_isNumberChar {c : Char} (h : isNumberChar c) : isWordChar c := by
  have hothers : [' ', '\t', '\n', '\r', '"', '[', ']', '{', '}', ',', ':'].all (!isNumberChar ·) = true := by rfl
  by_contra hword
  have hmem : c ∈ [' ', '\t', '\n', '\r', '"', '[', ']', '{', '}', ',', ':'] := by
    rw [isWordChar, Bool.not_eq_true, Bool.not_eq_false', Bool.or_eq_true, Bool.or_eq_true] at hword
    rcases hword with (hblank | hquote) | hmark
    · simp only [isBlank, Bool.or_eq_true, beq_iff_eq] at hblank
      rcases hblank with ((rfl | rfl) | rfl) | rfl <;> decide
    · rw [beq_iff_eq] at hquote
      rw [hquote]
      decide
    · rw [ofMark?.eq_def] at hmark
      split at hmark <;> first | decide | cases hmark
  have hnot := List.all_eq_true.1 hothers c hmem
  rw [h] at hnot
  cases hnot

theorem step?_wordChar {c : Char} (hc : isWordChar c) (read : List Char) :
    step? ⟨found, .word read⟩ c = some ⟨found, .word (c :: read)⟩ ∧ step? ⟨found, .nothing⟩ c = some ⟨found, .word [c]⟩ := by
  rw [isWordChar, Bool.not_eq_true', Bool.or_eq_false_iff, Bool.or_eq_false_iff, beq_eq_false_iff_ne] at hc
  obtain ⟨⟨hblank, hquote⟩, hmark⟩ := hc
  rw [Option.isSome_eq_false_iff, Option.isNone_iff_eq_none] at hmark
  constructor <;>
  · show outside? _ c = _
    rw [outside?, hblank, if_neg Bool.false_ne_true, if_neg hquote, hmark]

theorem reads?_word (hword : ∀ c ∈ text, isWordChar c) (read : List Char) :
    reads? ⟨found, .word read⟩ text = some ⟨found, .word (text.reverse ++ read)⟩ := by
  induction text generalizing read with
  | nil => rfl
  | cons c rest ih =>
    obtain ⟨hc, hrest⟩ := List.forall_mem_cons.1 hword
    rw [reads?_cons, (step?_wordChar hc read).1, Option.bind_some, ih hrest, List.reverse_cons, List.append_assoc]
    rfl

/-! #### Texts -/

theorem step?_text {c : Char} (hquote : c ≠ '"') (hbackslash : c ≠ '\\') (read : List Char) :
    step? ⟨found, .text read⟩ c = some ⟨found, .text (c :: read)⟩ := by
  exact (if_neg hquote).trans (if_neg hbackslash)

theorem step?_endQuote (read : List Char) :
    step? ⟨found, .text read⟩ '"' = (unescape? read.reverse).map fun t => ⟨.scalar (.text t) :: found, .nothing⟩ := rfl

/-- A character of a text is read without an end of it. -/
theorem reads?_written {c : Char} {written : List Char} (h : Written c written) (read : List Char) :
    reads? ⟨found, .text read⟩ written = some ⟨found, .text (written.reverse ++ read)⟩ := by
  cases h with
  | plain hquote hbackslash hmore => rw [reads?_cons, step?_text hquote hbackslash]; rfl
  | @short d hd h => rfl
  | @digits a b d e hless h =>
    have hdigit {x : Char} (hx : x ∈ [a, b, d, e]) (read : List Char) :
        step? ⟨found, .text read⟩ x = some ⟨found, .text (x :: read)⟩ := by
      have hsome := Text.isSome_digitWorth? h x hx
      refine step?_text ?_ ?_ read
      · rintro rfl
        cases hsome
      · rintro rfl
        cases hsome
    have hmark : reads? ⟨found, .text read⟩ ['\\', 'u'] = some ⟨found, .text ('u' :: '\\' :: read)⟩ := rfl
    rw [show ['\\', 'u', a, b, d, e] = ['\\', 'u'] ++ [a, b, d, e] from rfl, reads?_append, hmark, Option.bind_some,
      reads?_cons, hdigit (by simp), Option.bind_some, reads?_cons, hdigit (by simp), Option.bind_some,
      reads?_cons, hdigit (by simp), Option.bind_some, reads?_cons, hdigit (by simp)]
    rfl

theorem reads?_flatMap_escapeChar (cs read : List Char) :
    reads? ⟨found, .text read⟩ (cs.flatMap escapeChar) = some ⟨found, .text ((cs.flatMap escapeChar).reverse ++ read)⟩ := by
  induction cs generalizing read with
  | nil => rfl
  | cons c cs ih =>
    rw [List.flatMap_cons, reads?_append, reads?_written (written_escapeChar c), Option.bind_some, ih,
      List.reverse_append, List.append_assoc]

end Scan

/-! ### What texts are scanned to -/

/-- A text is scanned to some lexemes, of which the last may be a word that goes on. -/
def Scans (text : List Char) (lexemes : List Lexeme) : Prop :=
  ∀ found, ∃ s : Scan, Scan.reads? ⟨found, .nothing⟩ text = some s ∧ s.Settled (lexemes.reverse ++ found)

/-- A text is scanned to some lexemes, of which the last has ended. -/
def Ends (text : List Char) (lexemes : List Lexeme) : Prop :=
  ∀ found, Scan.reads? ⟨found, .nothing⟩ text = some ⟨lexemes.reverse ++ found, .nothing⟩

variable {front behind : List Char} {as bs : List Lexeme}

theorem Ends.scans (h : Ends front as) : Scans front as := fun found => ⟨_, h found, Scan.settled_nothing _⟩

theorem Ends.append (hfront : Ends front as) (hbehind : Ends behind bs) : Ends (front ++ behind) (as ++ bs) := by
  intro found
  rw [Scan.reads?_append, hfront, Option.bind_some, hbehind, List.reverse_append, List.append_assoc]

theorem Ends.append_scans (hfront : Ends front as) (hbehind : Scans behind bs) : Scans (front ++ behind) (as ++ bs) := by
  intro found
  obtain ⟨s, hs, hsettled⟩ := hbehind (as.reverse ++ found)
  rw [← List.append_assoc, ← List.reverse_append] at hsettled
  refine ⟨s, ?_, hsettled⟩
  rw [Scan.reads?_append, hfront, Option.bind_some, hs]

/-- A mark ends what is in front of it. -/
theorem Scans.mark (h : Scans front as) {c : Char} {l : Lexeme} (hmark : ofMark? c = some l) :
    Ends (front ++ [c]) (as ++ [l]) := by
  intro found
  obtain ⟨s, hs, hsettled⟩ := h found
  rw [Scan.reads?_append, hs, Option.bind_some, Scan.reads?_cons, hsettled.step?_mark hmark, List.reverse_append]
  rfl

theorem scans_nil : Scans [] [] := fun found => ⟨_, rfl, Scan.settled_nothing found⟩

theorem ends_mark {c : Char} {l : Lexeme} (hmark : ofMark? c = some l) : Ends [c] [l] := scans_nil.mark hmark

theorem scans_word {word : List Char} {l : Lexeme} (hne : word ≠ []) (hword : word.all Scan.isWordChar)
    (h : ofWord? word = some l) : Scans word [l] := by
  intro found
  obtain ⟨c, rest, rfl⟩ := List.exists_cons_of_ne_nil hne
  obtain ⟨hc, hrest⟩ := List.forall_mem_cons.1 (List.all_eq_true.1 hword)
  refine ⟨⟨found, .word (rest.reverse ++ [c])⟩, ?_, ?_⟩
  · rw [Scan.reads?_cons, (Scan.step?_wordChar hc []).2, Option.bind_some, Scan.reads?_word hrest]
  · rw [Scan.Settled, Scan.endWord?]
    dsimp only
    rw [← List.reverse_cons, List.reverse_reverse, h]
    rfl

theorem ends_quoted (s : String) : Ends (quoted s).toList [.scalar (.text s)] := by
  intro found
  rw [quoted, String.toList_ofList, Scan.reads?_cons, (Scan.settled_nothing found).step?_quote, Option.bind_some,
    Scan.reads?_append, Scan.reads?_flatMap_escapeChar, Option.bind_some, List.append_nil, Scan.reads?_cons,
    Scan.step?_endQuote, List.reverse_reverse, unescape?_flatMap_escapeChar]
  rfl

/-- Lists of texts with commas between them. -/
theorem scans_intercalate {texts : List (List Char)} {lexemes : List (List Lexeme)}
    (h : List.Forall₂ Scans texts lexemes) : Scans ([','].intercalate texts) ([.comma].intercalate lexemes) := by
  induction h with
  | nil => exact scans_nil
  | @cons front as texts lexemes hfront hrest ih =>
    cases hrest with
    | nil =>
      rw [List.intercalate_singleton, List.intercalate_singleton]
      exact hfront
    | cons hnext hrest =>
      rw [List.intercalate_cons_cons, List.intercalate_cons_cons]
      exact (hfront.mark rfl).append_scans ih

theorem scan?_of_scans (h : Scans front as) : scan? front = some as := by
  obtain ⟨s, hs, hsettled⟩ := h []
  rw [List.append_nil] at hsettled
  rw [scan?, ← Scan.reads?, hs, Option.bind_some, Scan.finish?, hsettled, Option.bind_some, List.reverse_reverse]

theorem ofWord?_of_readNumber? {word : List Char} {j : Json} (h : readNumber? word = some j) :
    ofWord? word = some (.scalar j) := by
  have hnot {text : List Char} (hnone : (readNumber? text).isNone) : word ≠ text := by
    rintro rfl
    rw [h] at hnone
    cases hnone
  rw [ofWord?, if_neg (hnot (by decide)), if_neg (hnot (by decide)), if_neg (hnot (by decide)), h]
  rfl

theorem scans_number {text : List Char} {j : Json} (h : readNumber? text = some j) : Scans text [.scalar j] := by
  have hne : text ≠ [] := by
    rintro rfl
    cases h
  refine scans_word hne (List.all_eq_true.2 fun c hc => ?_) (ofWord?_of_readNumber? h)
  exact Scan.isWordChar_of_isNumberChar (isNumberChar_of_readNumber? h c hc)

end Lexeme

/-! ### Rendered trees -/

open Lexeme (Scans Ends scans_word scans_number scans_intercalate ends_mark ends_quoted)

/-- Lists in brackets. -/
theorem scans_enclosed {shape : Shape} {opening closing : String} {texts : List String} {lexemes : List (List Lexeme)}
    (hopening : Ends opening.toList [.opening shape]) {c : Char} (hclosing : closing.toList = [c])
    (hmark : Lexeme.ofMark? c = some (.closing shape))
    (h : List.Forall₂ Scans (texts.map String.toList) lexemes) :
    Scans (opening ++ ",".intercalate texts ++ closing).toList
      (.opening shape :: ([.comma].intercalate lexemes ++ [.closing shape])) := by
  have hitems : (",".intercalate texts).toList = [','].intercalate (texts.map String.toList) := String.toList_intercalate
  rw [String.toList_append, String.toList_append, hitems, hclosing, List.append_assoc]
  exact (hopening.append ((scans_intercalate h).mark hmark)).scans

theorem scans_render {j : Json} (h : Faithful j) : Scans j.render.toList j.lexemes := by
  induction j with
  | null => exact scans_word (List.cons_ne_nil _ _) rfl rfl
  | bool b =>
    cases b with
    | false => exact scans_word (List.cons_ne_nil _ _) rfl rfl
    | true => exact scans_word (List.cons_ne_nil _ _) rfl rfl
  | integer n =>
    cases h with
    | integer h => exact scans_number h
  | float x =>
    cases h with
    | float h => exact scans_number h
  | text s => exact (ends_quoted s).scans
  | array items ih =>
    cases h with
    | array h =>
      have hitems : List.Forall₂ Scans ((renderItems items).map String.toList) (itemLexemes items) := by
        induction items with
        | nil => exact .nil
        | cons j rest ihrest =>
          obtain ⟨hj, hrest⟩ := List.forall_mem_cons.1 h
          obtain ⟨ihj, ihr⟩ := List.forall_mem_cons.1 ih
          exact .cons (ihj hj) (ihrest ihr hrest)
      exact scans_enclosed (ends_mark rfl) rfl rfl hitems
  | object members ih =>
    cases h with
    | object h =>
      have hmembers : List.Forall₂ Scans ((renderMembers members).map String.toList) (memberLexemes members) := by
        induction members with
        | nil => exact .nil
        | cons member rest ihrest =>
          obtain ⟨name, j⟩ := member
          obtain ⟨hj, hrest⟩ := List.forall_mem_cons.1 h
          obtain ⟨ihj, ihr⟩ := List.forall_mem_cons.1 ih
          refine .cons ?_ (ihrest ihr hrest)
          rw [String.toList_append, String.toList_append]
          exact ((ends_quoted name).scans.mark rfl).append_scans (ihj hj)
      exact scans_enclosed (ends_mark rfl) rfl rfl hmembers

end Mishap.Json
