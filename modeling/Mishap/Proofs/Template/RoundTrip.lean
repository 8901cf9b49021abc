import Mishap.Proofs.Template.Printing
import Mishap.Proofs.Template.Reading
import Mishap.Proofs.Template.Simplified

/-!
Printing and reading are inverse to each other on canonical trees. Main statement: a printed canonical tree is read as
that tree, up to spans, and the tree of a format string without a problem is canonical, so that it comes back when it is
printed and read again.
-/

namespace Mishap

/-- A directive as the grammar has it: no empty name, condition or verb, no verb that makes the sigil before it a longer
control sequence, and no conditional that is forced. -/
def Node.Worded : Node → Prop
  | field ref => ref.name ≠ "" ∧ ∀ verb ∈ ref.verb, Token.IsVerbText verb
  | conditional guard _ => guard.condition ≠ "" ∧ guard.forced = false
  | _ => True

/-- A simplified tree of directives as the grammar has them. -/
def Node.Canonical (node : Node) : Prop := node.Everywhere fun n => n.Compact ∧ n.Worded

namespace Grammar

open Node
open Token (kinds lexemes textKinds)

/-! ### Reading a printed tree -/

/-- The first tokens are a sequence that simplifies as `nodes` do, up to spans, and the others are of the kinds
`behind`. -/
def ReadsAs (tokens : List Token) (nodes : List Node) (behind : List Token.Kind) : Prop :=
  ∃ front back read, tokens = front ++ back ∧ back.map Token.kind = behind ∧ Sequence front read ∧
    simplifyItems (read.map bare) = simplifyItems (nodes.map bare)

/-- The text reads as `nodes`, and then as tokens of the kinds `behind`, whatever text `pending` it joins. -/
def Prints (text : List Char) (nodes : List Node) (behind : List Token.Kind) : Prop :=
  ∀ pending tokens, tokens.map Token.kind = kinds pending (lexemes text) →
    ReadsAs tokens (literal (String.ofList pending) :: nodes) behind

/-- Nodes that are read for a single one make, as a list, that node. -/
theorem simplify_bare_list {read : List Node} {node : Node}
    (h : simplifyItems (read.map bare) = simplifyItems ([node].map bare)) :
    (list read).bare.simplify = node.bare.simplify := by
  rw [bare, bareItems_eq_map, simplify, h, ← simplify, List.map_singleton, simplify_list_singleton]

theorem eq_cons_of_map_kind {tokens : List Token} {k : Token.Kind} {ks : List Token.Kind}
    (h : tokens.map Token.kind = k :: ks) : ∃ span rest, tokens = ⟨k, span⟩ :: rest ∧ rest.map Token.kind = ks := by
  obtain ⟨⟨_, span⟩, rest, rfl, rfl, hrest⟩ := List.map_eq_cons_iff.1 h
  exact ⟨span, rest, rfl, hrest⟩

theorem ReadsAs.nothing {tokens : List Token} {behind : List Token.Kind} (h : tokens.map Token.kind = behind) :
    ReadsAs tokens [] behind :=
  ⟨[], tokens, [], rfl, h, .nil, rfl⟩

theorem ReadsAs.congr {tokens : List Token} {nodes others : List Node} {behind : List Token.Kind}
    (h : ReadsAs tokens nodes behind) (heq : simplifyItems (nodes.map bare) = simplifyItems (others.map bare)) :
    ReadsAs tokens others behind := by
  obtain ⟨front, back, read, htokens, hback, hfront, hread⟩ := h
  exact ⟨front, back, read, htokens, hback, hfront, hread.trans heq⟩

/-- One more node in front. -/
theorem ReadsAs.cons {front rest : List Token} {node read : Node} {nodes : List Node} {behind : List Token.Kind}
    (hrest : ReadsAs rest nodes behind) (hfront : Sequence front [read])
    (heq : read.bare.simplify = node.bare.simplify) : ReadsAs (front ++ rest) (node :: nodes) behind := by
  obtain ⟨front', back, read', rfl, hback, hfront', hread'⟩ := hrest
  refine ⟨front ++ front', back, read :: read', by simp, hback, hfront.append hfront', ?_⟩
  rw [List.map_cons, List.map_cons, simplifyItems_cons, simplifyItems_cons, hread', heq]

/-- Text in front, as one token unless it is empty. -/
theorem ReadsAs.pending {pending : List Char} {ks : List Token.Kind} {nodes : List Node} {behind : List Token.Kind}
    (hrest : ∀ rest : List Token, rest.map Token.kind = ks → ReadsAs rest nodes behind) {tokens : List Token}
    (htokens : tokens.map Token.kind = textKinds pending ++ ks) :
    ReadsAs tokens (literal (String.ofList pending) :: nodes) behind := by
  cases pending with
  | nil => exact (hrest tokens htokens).congr (simplifyItems_empty_cons _).symm
  | cons c pending =>
    obtain ⟨span, rest, rfl, hmap⟩ := eq_cons_of_map_kind htokens
    exact (hrest rest hmap).cons (.text .nil) rfl

theorem Prints.reads {text : List Char} {nodes : List Node} {behind : List Token.Kind} (h : Prints text nodes behind)
    {tokens : List Token} (htokens : tokens.map Token.kind = kinds [] (lexemes text)) : ReadsAs tokens nodes behind :=
  (h [] tokens htokens).congr (simplifyItems_empty_cons _)

theorem Prints.nothing : Prints [] [] [] := by
  intro pending tokens htokens
  apply ReadsAs.pending fun _ => ReadsAs.nothing
  rw [htokens, List.append_nil]
  rfl

theorem Prints.closeBrace (rest : List Char) :
    Prints ('}' :: rest) [] (.mark .closeBrace :: kinds [] (lexemes rest)) := by
  intro pending tokens htokens
  apply ReadsAs.pending fun _ => ReadsAs.nothing
  rw [htokens, Token.lexemes_closeBrace]
  rfl

section
variable {rest : List Char} {nodes : List Node} {behind : List Token.Kind} (h : Prints rest nodes behind)
include h

theorem Prints.literal (text : String) : Prints (chars (.literal text) ++ rest) (.literal text :: nodes) behind := by
  intro pending tokens htokens
  rw [Token.kinds_chars_literal] at htokens
  have hjoined := h _ tokens htokens
  rw [String.ofList_append, String.ofList_toList] at hjoined
  exact hjoined.congr (simplifyItems_literal_append _ _ _)

theorem Prints.wrap (scope : Scope) (span : Span) :
    Prints (chars (.wrap scope span) ++ rest) (.wrap scope span :: nodes) behind := by
  intro pending tokens htokens
  rw [Token.kinds_chars_wrap] at htokens
  refine ReadsAs.pending (fun tokens hmap => ?_) htokens
  obtain ⟨a, tail, rfl, htail⟩ := eq_cons_of_map_kind hmap
  exact (h.reads htail).cons (.wrap .nil) rfl

theorem Prints.field (ref : FieldRef) (hworded : (Node.field ref).Worded) :
    Prints (chars (.field ref) ++ rest) (.field ref :: nodes) behind := by
  obtain ⟨scope, verb, name, span⟩ := ref
  obtain ⟨hname, hverb⟩ := hworded
  intro pending tokens htokens
  cases verb with
  | none =>
    rw [Token.kinds_chars_field _ _ _ hname] at htokens
    refine ReadsAs.pending (fun tokens hsigil => ?_) htokens
    obtain ⟨a, _, rfl, hopen⟩ := eq_cons_of_map_kind hsigil
    obtain ⟨b, _, rfl, htext⟩ := eq_cons_of_map_kind hopen
    obtain ⟨c, _, rfl, hclose⟩ := eq_cons_of_map_kind htext
    obtain ⟨d, tail, rfl, htail⟩ := eq_cons_of_map_kind hclose
    exact (h.reads htail).cons (.field .nil) rfl
  | some verb =>
    rw [Token.kinds_chars_verbField _ _ _ (hverb verb rfl) hname] at htokens
    refine ReadsAs.pending (fun tokens hsigil => ?_) htokens
    obtain ⟨a, _, rfl, hletters⟩ := eq_cons_of_map_kind hsigil
    obtain ⟨b, _, rfl, hopen⟩ := eq_cons_of_map_kind hletters
    obtain ⟨c, _, rfl, htext⟩ := eq_cons_of_map_kind hopen
    obtain ⟨d, _, rfl, hclose⟩ := eq_cons_of_map_kind htext
    obtain ⟨e, tail, rfl, htail⟩ := eq_cons_of_map_kind hclose
    exact (h.reads htail).cons (.verbField .nil) rfl

theorem Prints.conditional (guard : Guard) (body : Node) (hworded : (Node.conditional guard body).Worded)
    (hbody : Prints (body.chars ++ '}' :: rest) [body] (.mark .closeBrace :: kinds [] (lexemes rest))) :
    Prints (chars (.conditional guard body) ++ rest) (.conditional guard body :: nodes) behind := by
  obtain ⟨scope, condition, forced, span⟩ := guard
  obtain ⟨hcondition, rfl⟩ := hworded
  intro pending tokens htokens
  rw [Token.kinds_chars_conditional _ _ _ hcondition] at htokens
  refine ReadsAs.pending (fun tokens hguard => ?_) htokens
  obtain ⟨a, _, rfl, htext⟩ := eq_cons_of_map_kind hguard
  obtain ⟨b, _, rfl, hopen⟩ := eq_cons_of_map_kind htext
  obtain ⟨c, _, rfl, hinside⟩ := eq_cons_of_map_kind hopen
  obtain ⟨inner, back, read, rfl, hback, hinner, hread⟩ := hbody.reads hinside
  obtain ⟨d, tail, rfl, htail⟩ := eq_cons_of_map_kind hback
  have hfront : Sequence (⟨.mark (.guard scope), a⟩ :: ⟨.text condition, b⟩ :: ⟨.mark .openBrace, c⟩ ::
      (inner ++ [⟨.mark .closeBrace, d⟩])) [.conditional ⟨scope, condition, false, ⟨a.start, d.stop⟩⟩ (.list read)] :=
    .conditional hinner .nil
  have heq : (Node.conditional ⟨scope, condition, false, ⟨a.start, d.stop⟩⟩ (.list read)).bare.simplify =
      (Node.conditional ⟨scope, condition, false, span⟩ body).bare.simplify := by
    rw [bare, simplify, simplify_bare_list hread, bare, simplify]
  simpa using (h.reads htail).cons hfront heq

end

/-- Items one behind the other. -/
theorem Prints.append {items : List Node} (hitems : ∀ node ∈ items, ∀ (rest : List Char) nodes behind,
      Prints rest nodes behind → Prints (node.chars ++ rest) (node :: nodes) behind)
    {rest : List Char} {nodes : List Node} {behind : List Token.Kind} (h : Prints rest nodes behind) :
    Prints (charsIn items ++ rest) (items ++ nodes) behind := by
  induction items with
  | nil => exact h
  | cons node items ih =>
    obtain ⟨hnode, hitems⟩ := List.forall_mem_cons.1 hitems
    rw [charsIn, List.append_assoc]
    exact hnode _ _ _ (ih hitems)

/-- Items read one by one are a list of them, up to simplification. -/
theorem Prints.list {text : List Char} {items nodes : List Node} {behind : List Token.Kind}
    (h : Prints text (items ++ nodes) behind) : Prints text (.list items :: nodes) behind := by
  intro pending tokens htokens
  apply (h pending tokens htokens).congr
  simp only [List.map_cons, List.map_append, bare, bareItems_eq_map]
  rw [simplifyItems_cons, simplifyItems_cons, simplifyItems_list_cons]

/-- Reading a printed node gives the node, up to spans and simplification. -/
theorem Prints.node {node : Node} (hworded : node.Everywhere Worded) {rest : List Char} {nodes : List Node}
    {behind : List Token.Kind} (h : Prints rest nodes behind) : Prints (node.chars ++ rest) (node :: nodes) behind := by
  -- what follows is not fixed: the body of a conditional is followed by a brace, an item by the other items
  induction node generalizing rest nodes behind with
  | literal text => exact h.literal text
  | field ref => exact h.field ref hworded
  | wrap scope span => exact h.wrap scope span
  | conditional guard body ih => exact h.conditional guard body hworded.1 (ih hworded.2 (Prints.closeBrace rest))
  | list items ih =>
    have hitems := (everywhere_list.1 hworded).2
    apply Prints.list
    rw [chars]
    exact Prints.append (fun node hnode _ _ _ => ih node hnode (hitems node hnode)) h

/-- A printed tree is read without a problem as the tree simplified, up to spans. -/
theorem ofFormat_print {node : Node} (hworded : node.Everywhere Worded) :
    (Template.ofFormat node.print).error? = none ∧
      (Template.ofFormat node.print).root.bare = node.simplify.bare := by
  obtain ⟨inner, hkinds, hscan⟩ := Token.scan_eq node.print
  have hprints := Prints.node hworded Prints.nothing
  rw [List.append_nil] at hprints
  rw [Node.print, String.toList_ofList] at hkinds
  obtain ⟨front, back, read, rfl, hback, hfront, hread⟩ := hprints.reads hkinds
  obtain rfl := List.map_eq_nil_iff.1 hback
  rw [List.append_nil] at hscan
  have hparsed := hfront.ofTokens node.print ⟨0, 0⟩ ⟨node.print.utf8ByteSize, node.print.utf8ByteSize⟩
  rw [← hscan] at hparsed
  refine ⟨congrArg ParsedTemplate.error hparsed, ?_⟩
  have hroot : (Template.ofFormat node.print).root = (Node.list read).simplify := congrArg ParsedTemplate.root hparsed
  rw [hroot, bare_simplify, simplify_bare_list hread, bare_simplify]

/-! ### The tree of a format string -/

/-- Kinds of tokens as scanning gives them: no text is empty, and none can make the sigil before it a longer control
sequence. -/
structure Scanned (ks : List Token.Kind) : Prop where
  not_empty : .text "" ∉ ks
  follows : ks.IsChain Token.Kind.Follows

theorem Scanned.of_append (front : List Token.Kind) {back : List Token.Kind} (h : Scanned (front ++ back)) :
    Scanned back where
  not_empty hmem := h.not_empty (List.mem_append_right front hmem)
  follows := h.follows.right_of_append

theorem Scanned.of_append_left {front back : List Token.Kind} (h : Scanned (front ++ back)) : Scanned front where
  not_empty hmem := h.not_empty (List.mem_append_left back hmem)
  follows := h.follows.left_of_append

theorem Scanned.ne_empty {ks : List Token.Kind} (h : Scanned ks) {s : String} (hs : .text s ∈ ks) : s ≠ "" := by
  rintro rfl
  exact h.not_empty hs

theorem scanned_kinds (text : List Char) : Scanned (kinds [] (lexemes text)) where
  not_empty hmem := by
    rcases Token.mem_kinds hmem with ⟨s, hs, hne⟩ | ⟨m, hm⟩
    · exact hne (Token.Kind.text.inj hs).symm
    · cases hm
  follows := Token.isChain_kinds (Token.isChain_lexemes text) []

/-- The directives of scanned tokens are as the grammar has them. -/
theorem Sequence.worded {tokens : List Token} {nodes : List Node} (h : Sequence tokens nodes)
    (hscanned : Scanned (tokens.map Token.kind)) : ∀ node ∈ nodes, node.Everywhere Worded := by
  induction h with
  | nil => simp
  | @text s span rest nodes _ ih => exact List.forall_mem_cons.2 ⟨trivial, ih (.of_append [.text s] hscanned)⟩
  | @wrap scope span rest nodes _ ih =>
    exact List.forall_mem_cons.2 ⟨trivial, ih (.of_append [.mark (.wrap scope)] hscanned)⟩
  | @field scope name a b c d rest nodes _ ih =>
    have hname : name ≠ "" := hscanned.ne_empty (by simp)
    have htail : Scanned (rest.map Token.kind) :=
      .of_append [.mark (.field scope), .mark .openBrace, .text name, .mark .closeBrace] hscanned
    exact List.forall_mem_cons.2 ⟨⟨hname, by simp⟩, ih htail⟩
  | @verbField scope verb name a b c d e rest nodes _ ih =>
    have hname : name ≠ "" := hscanned.ne_empty (by simp)
    have hverb : Token.IsVerbText verb := (List.isChain_cons_cons.1 hscanned.follows).1
    have htail : Scanned (rest.map Token.kind) :=
      .of_append [.mark (.field scope), .text verb, .mark .openBrace, .text name, .mark .closeBrace] hscanned
    exact List.forall_mem_cons.2 ⟨⟨hname, by simpa using hverb⟩, ih htail⟩
  | @conditional scope condition a b c d inner items rest nodes _ _ ihbody ih =>
    have hcondition : condition ≠ "" := hscanned.ne_empty (by simp)
    have hblock : Scanned ((inner ++ ⟨.mark .closeBrace, d⟩ :: rest).map Token.kind) :=
      .of_append [.mark (.guard scope), .text condition, .mark .openBrace] hscanned
    rw [List.map_append] at hblock
    have hbody := ihbody hblock.of_append_left
    have htail := ih (.of_append [.mark .closeBrace] (.of_append (inner.map Token.kind) hblock))
    exact List.forall_mem_cons.2 ⟨⟨⟨hcondition, rfl⟩, everywhere_list.2 ⟨trivial, hbody⟩⟩, htail⟩

/-- The tree of a format string without a problem is canonical. -/
theorem canonical_root {format : String} (h : (Template.ofFormat format).error? = none) :
    (Template.ofFormat format).root.Canonical := by
  obtain ⟨inner, nodes, hkinds, -, hinner, hroot⟩ := exists_sequence h
  have hscanned : Scanned (inner.map Token.kind) := by
    rw [hkinds]
    exact scanned_kinds _
  have hworded : (Node.list nodes).Everywhere Worded := everywhere_list.2 ⟨trivial, hinner.worded hscanned⟩
  rw [hroot]
  exact everywhere_simplify (fun _ => ⟨trivial, trivial⟩)
    (fun items _ hlength => ⟨⟨hlength, separated_simplifyItems items⟩, trivial⟩) (fun _ hfield => ⟨trivial, hfield⟩)
    (fun _ _ _ => ⟨trivial, trivial⟩) (fun _ _ hconditional => ⟨trivial, hconditional⟩) hworded

/-- Printing and reading are inverse to each other: a canonical tree comes back when it is printed and read, and so does
the tree of a format string without a problem, which is canonical. -/
theorem print_read :
    (∀ node : Node, node.Canonical →
        (Template.ofFormat node.print).error? = none ∧ (Template.ofFormat node.print).root.bare = node.bare) ∧
      ∀ format, (Template.ofFormat format).error? = none →
        (Template.ofFormat format).root.Canonical ∧
          (Template.ofFormat (Template.ofFormat format).root.print).error? = none ∧
          (Template.ofFormat (Template.ofFormat format).root.print).root.bare =
            (Template.ofFormat format).root.bare := by
  have hprint : ∀ node : Node, node.Canonical →
      (Template.ofFormat node.print).error? = none ∧ (Template.ofFormat node.print).root.bare = node.bare := by
    intro node hcanonical
    obtain ⟨herror, hroot⟩ := ofFormat_print (hcanonical.imp fun _ h => h.2)
    rw [simplify_of_compact (hcanonical.imp fun _ h => h.1)] at hroot
    exact ⟨herror, hroot⟩
  refine ⟨hprint, fun format herror => ?_⟩
  have hcanonical := canonical_root herror
  exact ⟨hcanonical, hprint _ hcanonical⟩

/-- A verb that needs a backslash, inside of a conditional, and a doubled sigil. -/
theorem print_read_escaped :
    (∃ node : Node, node.print = "$!m=0\x7b%\\%w\x7bx\x7d\x7d" ∧ node.Canonical ∧
        (Template.ofFormat node.print).error? = none ∧ (Template.ofFormat node.print).root.bare = node.bare) ∧
      (Template.ofFormat "a%%w\\").error? = none ∧ (Template.ofFormat "a%%w\\").root.Canonical := by
  constructor
  · let node : Node := .conditional ⟨.passed, "m=0", false, ⟨0, 0⟩⟩ (.field ⟨.own, some "%w", "x", ⟨0, 0⟩⟩)
    have hcanonical : node.Canonical := by
      simp [node, Canonical, Everywhere, Compact, Worded, Token.IsVerbText]
    exact ⟨node, by decide, hcanonical, print_read.1 node hcanonical⟩
  · have herror : (Template.ofFormat "a%%w\\").error? = none := by decide
    exact ⟨herror, (print_read.2 _ herror).1⟩

end Grammar

end Mishap
