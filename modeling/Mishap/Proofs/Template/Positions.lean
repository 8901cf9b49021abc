import Mathlib.Data.List.Flatten
import Mishap.Proofs.Template.Parts
import Mishap.Proofs.Template.Reading

/-!
Where tokens and directives stand. The tokens of a format string cover it from end to end, and every directive of its
tree begins behind the directives before it. Main statement: in the tree of a format string without a problem the
offsets at which the directives begin ascend.
-/

namespace Mishap

namespace Token

/-! ### Tokens -/

/-- The tokens cover the bytes from `start` up to `stop`: none is empty, and each begins where the one before it
ends. -/
def Tiles : Nat → List Token → Nat → Prop
  | start, [], stop => start = stop
  | start, t :: rest, stop => t.span.start = start ∧ start < t.span.stop ∧ Tiles t.span.stop rest stop

theorem Tiles.append {a b c : Nat} {tokens rest : List Token} (h : Tiles a tokens b) (hrest : Tiles b rest c) :
    Tiles a (tokens ++ rest) c := by
  induction tokens generalizing a with
  | nil =>
    obtain rfl : a = b := h
    exact hrest
  | cons t tokens ih => exact ⟨h.1, h.2.1, ih h.2.2⟩

theorem Tiles.exists_of_append {a c : Nat} {tokens rest : List Token} (h : Tiles a (tokens ++ rest) c) :
    ∃ b, Tiles a tokens b ∧ Tiles b rest c := by
  induction tokens generalizing a with
  | nil => exact ⟨a, rfl, h⟩
  | cons t tokens ih =>
    obtain ⟨b, htokens, hrest⟩ := ih h.2.2
    exact ⟨b, ⟨h.1, h.2.1, htokens⟩, hrest⟩

theorem Tiles.le {a b : Nat} {tokens : List Token} (h : Tiles a tokens b) : a ≤ b := by
  induction tokens generalizing a with
  | nil => exact Nat.le_of_eq h
  | cons t rest ih => exact Nat.le_trans (Nat.le_of_lt h.2.1) (ih h.2.2)

theorem Mark.spelling_pos (m : Mark) : 0 < m.spelling.utf8ByteSize := by
  rcases m with scope | scope | scope | _ | _ <;> try cases scope
  all_goals decide

theorem width_pos_of_mem_lexemes (text : List Char) : ∀ part ∈ lexemes text, 0 < part.width := by
  fun_induction lexemes text with
  | case1 => simp
  | case13 c rest => exact List.forall_mem_cons.2 ⟨c.utf8Size_pos, by assumption⟩
  | _ => exact List.forall_mem_cons.2 ⟨by first | exact Mark.spelling_pos _ | simp [Lexeme.width], by assumption⟩

/-- Where the text that is being read began. -/
def Run.start? (run : Option Run) (position : Nat) : Nat :=
  match run with
  | some run => run.start
  | none => position

theorem tiles_token? {run : Option Run} {position : Nat} (hrun : ∀ r ∈ run, r.start < position) :
    Tiles (Run.start? run position) (Run.token? run position) position := by
  cases run with
  | none => rfl
  | some r => exact ⟨rfl, hrun r rfl, rfl⟩

theorem tiles_ofLexemes {parts : List Lexeme} (hparts : ∀ part ∈ parts, 0 < part.width) (position : Nat)
    (run : Option Run) (hrun : ∀ r ∈ run, r.start < position) :
    ∃ inner last, ofLexemes position run parts = inner ++ [last] ∧
      Tiles (Run.start? run position) inner (position + extent parts) := by
  induction parts generalizing position run with
  | nil => exact ⟨Run.token? run position, _, rfl, tiles_token? hrun⟩
  | cons part rest ih =>
    obtain ⟨hpart, hrest⟩ := List.forall_mem_cons.1 hparts
    rw [extent, ← Nat.add_assoc]
    cases part with
    | literal c width =>
      have hwidth : position < position + width := Nat.lt_add_of_pos_right hpart
      cases run with
      | none => exact ih hrest (position + width) (some ⟨[c], position⟩) (by simpa using hwidth)
      | some r =>
        have hr : r.start < position := hrun r rfl
        exact ih hrest (position + width) (some { r with chars := c :: r.chars }) (by simpa using hr.trans hwidth)
    | mark m =>
      have hwidth : position < position + (Lexeme.mark m).width := Nat.lt_add_of_pos_right hpart
      obtain ⟨inner, last, hinner, htiles⟩ := ih hrest (position + (Lexeme.mark m).width) none (by simp)
      refine ⟨Run.token? run position ++ ⟨.mark m, ⟨position, position + (Lexeme.mark m).width⟩⟩ :: inner, last, ?_,
        (tiles_token? hrun).append ⟨rfl, hwidth, htiles⟩⟩
      rw [ofLexemes, hinner]
      simp

/-- The tokens between the start and the end cover the format string. -/
theorem tiles_of_scan_eq {format : String} {inner : List Token} {first last : Token}
    (h : scan format = first :: (inner ++ [last])) : Tiles 0 inner format.utf8ByteSize := by
  obtain ⟨tokens, stop, htokens, htiles⟩ :=
    tiles_ofLexemes (width_pos_of_mem_lexemes format.toList) 0 none (by simp)
  rw [extent_lexemes, String.ofList_toList, Nat.zero_add] at htiles
  rw [scan, htokens] at h
  obtain ⟨rfl, -⟩ := List.append_inj' (List.cons.inj h).2 rfl
  exact htiles

end Token

/-! ### Directives -/

/-- The stretch of the format string that a directive was read from. -/
def Part.span? : Part → Option Span
  | literal _ => none
  | field ref => some ref.span
  | wrap _ span => some span
  | head guard => some guard.span

/-- Where a directive begins. -/
def Part.start? (part : Part) : Option Nat := part.span?.map Span.start

namespace Node

/-- Where the directives of a tree begin, in source order. -/
def starts (node : Node) : List Nat := (node.parts []).filterMap fun placed => placed.part.start?

/-- The conditionals around a node do not move its directives. -/
theorem filterMap_start?_parts (node : Node) (around : List Guard) :
    (node.parts around).filterMap (fun placed => placed.part.start?) = node.starts := by
  rw [starts]
  induction node generalizing around with
  | list items ih =>
    simp only [parts, partsIn_eq_flatMap, List.filterMap_flatMap]
    exact List.flatMap_congr fun node hnode => (ih node hnode around).trans (ih node hnode []).symm
  | conditional guard body ih =>
    simp only [parts, List.filterMap_cons]
    rw [ih, ih ([] ++ [guard])]
  | _ => rfl

theorem starts_list (items : List Node) : (list items).starts = items.flatMap starts := by
  rw [starts, parts, partsIn_eq_flatMap, List.filterMap_flatMap]
  rfl

theorem starts_conditional (guard : Guard) (body : Node) :
    (conditional guard body).starts = guard.span.start :: body.starts := by
  rw [starts, parts, List.filterMap_cons, filterMap_start?_parts]
  rfl

theorem piecewise_starts : Piecewise (fun a b => a ++ b) [] starts where
  nil := rfl
  cons node rest := by rw [starts_list, List.flatMap_cons, starts_list]
  empty := rfl
  append _ _ := rfl

/-- Simplifying a tree keeps its directives where they are. -/
theorem starts_simplify (node : Node) : node.simplify.starts = node.starts :=
  piecewise_starts.simplify (fun guard body h => by rw [starts_conditional, h, starts_conditional]) node

end Node

namespace Grammar

open Token (Tiles)

/-- Offsets that ascend, from `a` on and before `b`. -/
def AscendsIn (a b : Nat) (offsets : List Nat) : Prop :=
  offsets.Pairwise (· < ·) ∧ ∀ n ∈ offsets, a ≤ n ∧ n < b

theorem AscendsIn.nil (a b : Nat) : AscendsIn a b [] := ⟨.nil, by simp⟩

theorem AscendsIn.mono {a b c d : Nat} {offsets : List Nat} (h : AscendsIn b c offsets) (hab : a ≤ b) (hcd : c ≤ d) :
    AscendsIn a d offsets :=
  ⟨h.1, fun n hn => ⟨hab.trans (h.2 n hn).1, (h.2 n hn).2.trans_le hcd⟩⟩

/-- One more offset in front. -/
theorem AscendsIn.cons {a b n : Nat} {offsets : List Nat} (h : AscendsIn a b offsets) (ha : n < a) (hab : a ≤ b) :
    AscendsIn n b (n :: offsets) := by
  refine ⟨List.pairwise_cons.2 ⟨fun m hm => ha.trans_le (h.2 m hm).1, h.1⟩, List.forall_mem_cons.2 ⟨?_, ?_⟩⟩
  · exact ⟨le_rfl, ha.trans_le hab⟩
  · exact (h.mono ha.le le_rfl).2

theorem AscendsIn.append {a b c : Nat} {offsets rest : List Nat} (h : AscendsIn a b offsets)
    (hrest : AscendsIn b c rest) (hab : a ≤ b) (hbc : b ≤ c) : AscendsIn a c (offsets ++ rest) := by
  refine ⟨List.pairwise_append.2 ⟨h.1, hrest.1, fun m hm n hn => ?_⟩, List.forall_mem_append.2 ⟨?_, ?_⟩⟩
  · exact (h.2 m hm).2.trans_le (hrest.2 n hn).1
  · exact (h.mono le_rfl hbc).2
  · exact (hrest.mono hab le_rfl).2

/-- The directives of a sequence begin where their tokens do, one behind the other. -/
theorem Sequence.ascendsIn {tokens : List Token} {nodes : List Node} (h : Sequence tokens nodes) {a b : Nat}
    (htiles : Tiles a tokens b) : AscendsIn a b (nodes.flatMap Node.starts) := by
  induction h generalizing a b with
  | nil => exact .nil a b
  | text _ ih =>
    obtain ⟨-, hlt, htail⟩ := htiles
    exact (ih htail).mono hlt.le le_rfl
  | wrap _ ih =>
    obtain ⟨rfl, hlt, htail⟩ := htiles
    exact (ih htail).cons hlt htail.le
  | field _ ih =>
    obtain ⟨rfl, hsigil, -, hopen, -, hname, -, hclose, htail⟩ := htiles
    exact (ih htail).cons (hsigil.trans (hopen.trans (hname.trans hclose))) htail.le
  | verbField _ ih =>
    obtain ⟨rfl, hsigil, -, hverb, -, hopen, -, hname, -, hclose, htail⟩ := htiles
    exact (ih htail).cons (hsigil.trans (hverb.trans (hopen.trans (hname.trans hclose)))) htail.le
  | @conditional scope condition guard text opening closing inner items rest nodes _ _ ihbody ih =>
    obtain ⟨rfl, hguard, -, htext, -, hopen, hblock⟩ := htiles
    obtain ⟨e, hinner, -, hclose, htail⟩ := hblock.exists_of_append
    -- the head, then the directives of the body up to its brace, then those behind it
    have hbody : AscendsIn opening.stop closing.stop (items.flatMap Node.starts) :=
      (ihbody hinner).mono le_rfl hclose.le
    have hle : opening.stop ≤ closing.stop := hinner.le.trans hclose.le
    rw [List.flatMap_cons, Node.starts_conditional, Node.starts_list, List.cons_append]
    exact (hbody.append (ih htail) hle htail.le).cons (hguard.trans (htext.trans hopen)) (hle.trans htail.le)

/-- The offsets at which the directives of a format string begin ascend in source order. -/
theorem pairwise_starts_root {format : String} (h : (Template.ofFormat format).error? = none) :
    (Template.ofFormat format).root.starts.Pairwise (· < ·) := by
  obtain ⟨inner, nodes, -, hscan, hinner, hroot⟩ := exists_sequence h
  rw [hroot, Node.starts_simplify, Node.starts_list]
  exact (hinner.ascendsIn (Token.tiles_of_scan_eq hscan)).1

end Grammar

end Mishap
