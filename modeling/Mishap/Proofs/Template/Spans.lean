import Mishap.Proofs.Template.Levels
import Mishap.Proofs.Template.Slices

/-!
Spans of directives and of problems. Every node that is no list comes from tokens that stand side by side, also after
the tree has been simplified, and its span is what they cover. Main statement: the slice at the span of a directive,
alone, is read as that directive, spans nest as the directives do, and the span of a problem lies in the format
string.
-/

namespace Mishap

/-- A span that is not empty and ends before another begins. -/
def Span.Before (a b : Span) : Prop := a.start < a.stop ∧ a.stop ≤ b.start

namespace Node

/-- The stretch of the format string that a directive was read from. -/
def span? : Node → Option Span
  | field ref => some ref.span
  | wrap _ span => some span
  | conditional guard _ => some guard.span
  | _ => none

theorem not_list_of_span {node : Node} {span : Span} (h : span ∈ node.span?) : node.isList = false := by
  cases node with
  | list items => cases h
  | _ => rfl

/-- The directives of a list stand one behind the other, and those in the body of a conditional strictly inside of
it. -/
def Nests : Node → Prop
  | list items => (items.filterMap span?).Pairwise Span.Before
  | conditional guard body =>
    body.Everywhere fun node => ∀ span ∈ node.span?, guard.span.start < span.start ∧ span.stop < guard.span.stop
  | _ => True

end Node

/-! ### Tokens of directives -/

namespace Grammar

open Node (Everywhere everywhere_list span?)
open Token (Tiles)

/-- The node comes from tokens that stand side by side among others; a list comes from those of its items. -/
def Occurs (tokens : List Token) (node : Node) : Prop := ∃ inner, inner <:+: tokens ∧ Sequence inner node.spread

theorem Occurs.mono {inner tokens : List Token} {node : Node} (h : Occurs inner node) (hinner : inner <:+: tokens) :
    Occurs tokens node := by
  obtain ⟨mid, hmid, hsequence⟩ := h
  exact ⟨mid, hmid.trans hinner, hsequence⟩

theorem everywhere_occurs_cons (front : List Token) {rest : List Token} {node : Node} {nodes : List Node}
    (hnode : node.Everywhere (Occurs front)) (hnodes : ∀ n ∈ nodes, n.Everywhere (Occurs rest)) :
    ∀ n ∈ node :: nodes, n.Everywhere (Occurs (front ++ rest)) := by
  refine List.forall_mem_cons.2 ⟨hnode.imp fun n hn => ?_, fun n hn => (hnodes n hn).imp fun m hm => ?_⟩
  · exact hn.mono (List.prefix_append front rest).isInfix
  · exact hm.mono (List.suffix_append front rest).isInfix

theorem Sequence.occurs {tokens : List Token} {nodes : List Node} (h : Sequence tokens nodes) :
    ∀ node ∈ nodes, node.Everywhere (Occurs tokens) := by
  induction h with
  | nil => simp
  | text _ ih => exact everywhere_occurs_cons [_] ⟨_, List.infix_rfl, .text .nil⟩ ih
  | wrap _ ih => exact everywhere_occurs_cons [_] ⟨_, List.infix_rfl, .wrap .nil⟩ ih
  | field _ ih => exact everywhere_occurs_cons [_, _, _, _] ⟨_, List.infix_rfl, .field .nil⟩ ih
  | verbField _ ih => exact everywhere_occurs_cons [_, _, _, _, _] ⟨_, List.infix_rfl, .verbField .nil⟩ ih
  | @conditional scope condition a b c d inner items rest nodes body _ ihbody ih =>
    let front : List Token :=
      ⟨.mark (.guard scope), a⟩ :: ⟨.text condition, b⟩ :: ⟨.mark .openBrace, c⟩ ::
        (inner ++ [⟨.mark .closeBrace, d⟩])
    -- the items of the body come from the tokens between the braces
    have hinner : inner <:+: front := ⟨[_, _, _], [_], rfl⟩
    have hbody : (Node.list items).Everywhere (Occurs front) :=
      everywhere_list.2 ⟨⟨inner, hinner, body⟩, fun node hnode => (ihbody node hnode).imp fun n hn => hn.mono hinner⟩
    have hconditional : Everywhere (Occurs front)
        (.conditional ⟨scope, condition, false, ⟨a.start, d.stop⟩⟩ (.list items)) :=
      ⟨⟨front, List.infix_rfl, .conditional body .nil⟩, hbody⟩
    simpa [front] using everywhere_occurs_cons front hconditional ih

theorem Sequence.everywhere_occurs {tokens : List Token} {nodes : List Node} (h : Sequence tokens nodes) :
    (Node.list nodes).Everywhere (Occurs tokens) :=
  everywhere_list.2 ⟨⟨tokens, List.infix_rfl, h⟩, h.occurs⟩

/-- A directive spans its tokens, from end to end. -/
theorem Sequence.span_eq_of_tiles {tokens : List Token} {node : Node} (h : Sequence tokens [node]) {a b : Nat}
    (htiles : Tiles a tokens b) : ∀ span ∈ node.span?, span = ⟨a, b⟩ := by
  cases h with
  | text => simp [span?]
  | wrap tail =>
    cases tail
    obtain ⟨rfl, -, rfl⟩ := htiles
    rintro span ⟨⟩
    rfl
  | field tail =>
    cases tail
    obtain ⟨rfl, -, -, -, -, -, -, -, rfl⟩ := htiles
    rintro span ⟨⟩
    rfl
  | verbField tail =>
    cases tail
    obtain ⟨rfl, -, -, -, -, -, -, -, -, -, rfl⟩ := htiles
    rintro span ⟨⟩
    rfl
  | conditional body tail =>
    cases tail
    obtain ⟨rfl, -, -, -, -, -, hblock⟩ := htiles
    obtain ⟨stop, -, -, -, rfl⟩ := hblock.exists_of_append
    rintro span ⟨⟩
    rfl

/-- The tokens of a body are strictly inside of those of its conditional. -/
theorem Sequence.exists_body {tokens : List Token} {guard : Guard} {body : Node}
    (h : Sequence tokens [.conditional guard body]) {a b : Nat} (htiles : Tiles a tokens b) :
    ∃ inner items c d, body = .list items ∧ Sequence inner items ∧ Tiles c inner d ∧
      guard.span.start < c ∧ d < guard.span.stop := by
  cases h with
  | conditional hbody tail =>
    obtain ⟨rfl, hguard, -, htext, -, hopen, hblock⟩ := htiles
    obtain ⟨stop, hinner, -, hclose, -⟩ := hblock.exists_of_append
    exact ⟨_, _, _, _, rfl, hbody, hinner, hguard.trans (htext.trans hopen), hclose⟩

theorem Sequence.ne_nil {tokens : List Token} {node : Node} (h : Sequence tokens [node]) : tokens ≠ [] := by
  rintro rfl
  cases h

theorem Occurs.exists_sequence {tokens : List Token} {node : Node} (h : Occurs tokens node)
    (hlist : node.isList = false) : ∃ inner, inner <:+: tokens ∧ Sequence inner [node] := by
  obtain ⟨inner, hinner, hsequence⟩ := h
  rw [Node.spread_of_not_list hlist] at hsequence
  exact ⟨inner, hinner, hsequence⟩

/-- Among tokens that lie between two places, the directives lie between them. -/
theorem Occurs.bounds {tokens : List Token} {node : Node} (h : Occurs tokens node) {a b : Nat}
    (htiles : Tiles a tokens b) : ∀ span ∈ node.span?, a ≤ span.start ∧ span.start < span.stop ∧ span.stop ≤ b := by
  intro span hspan
  obtain ⟨inner, hinner, hsequence⟩ := h.exists_sequence (Node.not_list_of_span hspan)
  obtain ⟨c, d, hcovered, hac, hdb⟩ := htiles.exists_of_infix hinner
  rw [hsequence.span_eq_of_tiles hcovered span hspan]
  exact ⟨hac, hcovered.lt hsequence.ne_nil, hdb⟩

/-- The first node of a sequence has the first tokens of it. -/
theorem Sequence.exists_cons {tokens : List Token} {node : Node} {nodes : List Node}
    (h : Sequence tokens (node :: nodes)) :
    ∃ front rest, tokens = front ++ rest ∧ Sequence front [node] ∧ Sequence rest nodes := by
  cases h with
  | text tail => exact ⟨[_], _, rfl, .text .nil, tail⟩
  | wrap tail => exact ⟨[_], _, rfl, .wrap .nil, tail⟩
  | field tail => exact ⟨[_, _, _, _], _, rfl, .field .nil, tail⟩
  | verbField tail => exact ⟨[_, _, _, _, _], _, rfl, .verbField .nil, tail⟩
  | @conditional scope condition a b c d inner items rest _ body tail =>
    exact ⟨⟨_, a⟩ :: ⟨_, b⟩ :: ⟨_, c⟩ :: (inner ++ [⟨_, d⟩]), rest, by simp, .conditional body .nil, tail⟩

theorem Sequence.pairwise_before {tokens : List Token} {nodes : List Node} (h : Sequence tokens nodes) {a b : Nat}
    (htiles : Tiles a tokens b) : (nodes.filterMap span?).Pairwise Span.Before := by
  induction nodes generalizing tokens a with
  | nil => exact .nil
  | cons node nodes ih =>
    obtain ⟨front, rest, rfl, hnode, hnodes⟩ := h.exists_cons
    obtain ⟨c, hfront, hrest⟩ := htiles.exists_of_append
    cases hspan : node.span? with
    | none =>
      rw [List.filterMap_cons_none hspan]
      exact ih hnodes hrest
    | some span =>
      rw [List.filterMap_cons_some hspan]
      refine List.pairwise_cons.2 ⟨fun other hother => ?_, ih hnodes hrest⟩
      obtain ⟨n, hn, hother⟩ := List.mem_filterMap.1 hother
      obtain ⟨hbehind, -⟩ := (hnodes.occurs n hn).self.bounds hrest other hother
      rw [hnode.span_eq_of_tiles hfront span hspan]
      exact ⟨hfront.lt hnode.ne_nil, hbehind⟩

theorem Sequence.not_list {tokens : List Token} {nodes : List Node} (h : Sequence tokens nodes) :
    ∀ node ∈ nodes, node.isList = false := by
  induction h with
  | nil => simp
  | _ => exact List.forall_mem_cons.2 ⟨rfl, by assumption⟩

end Grammar

/-! ### Directives of a simplified tree -/

namespace Node

open Grammar (Occurs Sequence)
open Token (Tiles)

theorem filterMap_span?_eq {items : List Node} (h : ∀ node ∈ items, node.isList = false) :
    items.filterMap span? = (list items).atoms.filterMap span? := by
  rw [atoms, atomsIn_eq_flatMap, List.filterMap_flatMap]
  induction items with
  | nil => rfl
  | cons node rest ih =>
    obtain ⟨hnode, hrest⟩ := List.forall_mem_cons.1 h
    rw [List.flatMap_cons, ← ih hrest]
    cases node with
    | list items => cases hnode
    | literal text =>
      have hletters : (literal text).atoms.filterMap span? = [] :=
        List.filterMap_eq_nil_iff.2 (by simp [atoms, span?])
      rw [hletters]
      rfl
    | _ => rfl

/-- Simplifying a list of nodes of which none is a list keeps the directives in it. -/
theorem filterMap_span?_simplifyItems {items : List Node} (h : ∀ node ∈ items, node.isList = false)
    (hlength : 2 ≤ (simplifyItems items).length) : (simplifyItems items).filterMap span? = items.filterMap span? := by
  have hsimplify : (list items).simplify = list (simplifyItems items) := by rw [simplify, collapse_of_two_le hlength]
  rw [filterMap_span?_eq h, ← atoms_simplify, hsimplify,
    filterMap_span?_eq (separated_simplifyItems items).not_list]

variable {format : String} {tokens : List Token}

theorem readsAs_simplify {node : Node} (hoccurs : Occurs tokens node)
    (hscan : Token.scan format = Token.framed format tokens) :
    ∀ span ∈ node.span?, span.ReadsAs format node.simplify := by
  intro span hspan
  obtain ⟨inner, hinner, hsequence⟩ := hoccurs.exists_sequence (not_list_of_span hspan)
  obtain ⟨other, htiles, hreads⟩ := hsequence.readsAs hscan hinner
  rw [simplify_list_singleton] at hreads
  rwa [hsequence.span_eq_of_tiles htiles span hspan]

theorem nests_simplifyItems {items : List Node} (hoccurs : Occurs tokens (list items)) {a b : Nat}
    (htiles : Tiles a tokens b) (hlength : 2 ≤ (simplifyItems items).length) : (list (simplifyItems items)).Nests := by
  obtain ⟨inner, hinner, hsequence⟩ := hoccurs
  have hitems : Sequence inner items := hsequence
  obtain ⟨c, d, hcovered, -⟩ := htiles.exists_of_infix hinner
  rw [Nests, filterMap_span?_simplifyItems hitems.not_list hlength]
  exact hitems.pairwise_before hcovered

theorem nests_conditional_simplify {guard : Guard} {body : Node} (hoccurs : Occurs tokens (conditional guard body))
    {a b : Nat} (htiles : Tiles a tokens b) : (conditional guard body.simplify).Nests := by
  obtain ⟨inner, hinner, hsequence⟩ := hoccurs
  obtain ⟨c, d, hcovered, -⟩ := htiles.exists_of_infix hinner
  obtain ⟨mid, items, e, f, rfl, hitems, hmid, hstart, hstop⟩ := hsequence.exists_body hcovered
  have hinside {node : Node} (hnode : Occurs mid node) :
      ∀ span ∈ node.span?, guard.span.start < span.start ∧ span.stop < guard.span.stop := by
    intro span hspan
    have hbounds := hnode.bounds hmid span hspan
    omega
  exact everywhere_simplify (by simp [span?]) (by simp [span?]) (fun _ => hinside) (fun _ _ => hinside)
    (fun _ _ => hinside) hitems.everywhere_occurs

/-- What the nodes of the tokens have is kept when the tree is simplified. -/
theorem everywhere_root (h : (Template.ofFormat format).error? = none) :
    (Template.ofFormat format).root.Everywhere fun node =>
      (∀ span ∈ node.span?, span.ReadsAs format node) ∧ node.Nests := by
  obtain ⟨tokens, nodes, -, hscan, hnodes, hroot⟩ := Grammar.exists_sequence h
  have htiles := Token.tiles_of_scan_eq hscan
  rw [hroot]
  refine everywhere_simplify (fun text => ⟨?_, trivial⟩) (fun items hitems hlength => ⟨?_, ?_⟩)
    (fun ref href => ⟨readsAs_simplify href hscan, trivial⟩)
    (fun scope span hwrap => ⟨readsAs_simplify hwrap hscan, trivial⟩)
    (fun guard body hguard => ⟨readsAs_simplify hguard hscan, nests_conditional_simplify hguard htiles⟩)
    hnodes.everywhere_occurs
  · simp [span?]
  · simp [span?]
  · exact nests_simplifyItems hitems htiles hlength

end Node

/-! ### Problems -/

/-- Every token lies in the format string, also the start and the end. -/
theorem Token.liesIn_of_mem_scan {format : String} {t : Token} (h : t ∈ scan format) : t.span.LiesIn format := by
  obtain ⟨tokens, -, hscan⟩ := scan_eq format
  rw [hscan, List.mem_cons, List.mem_append, List.mem_singleton] at h
  rcases h with rfl | h | rfl
  · have hstart : (⟨0, 0⟩ : Span).Covers "" format := ⟨"", format, by simp, by simp⟩
    exact hstart.liesIn
  · exact ((decomposition_of_scan_eq hscan).readFrom t h).liesIn
  · have hstop : (⟨format.utf8ByteSize, format.utf8ByteSize⟩ : Span).Covers "" format := ⟨format, "", by simp, by simp⟩
    exact hstop.liesIn

namespace Grammar

/-- An open conditional begins where one of the tokens does. -/
theorem Unfinished.exists_token {tokens : List Token} {opens : List Opening} {nodes : List Node}
    (h : Unfinished tokens opens nodes) : ∀ o ∈ opens, ∃ t ∈ tokens, t.span.start = o.start := by
  induction h with
  | outside => simp
  | inside outer body ih =>
    refine List.forall_mem_cons.2 ⟨⟨_, List.mem_append_right _ List.mem_cons_self, rfl⟩, fun o ho => ?_⟩
    obtain ⟨t, ht, hstart⟩ := ih o ho
    exact ⟨t, List.mem_append_left _ ht, hstart⟩

theorem BreaksAt.liesIn {format : String} {before after : List Token} {t : Token} {place : Place}
    (h : BreaksAt format before t after place) : (place.span t).LiesIn format := by
  have hmem {u : Token} (hu : u ∈ before ++ t :: after) : u.span.LiesIn format := by
    apply Token.liesIn_of_mem_scan
    rw [h.scan_eq]
    exact List.mem_cons_of_mem _ hu
  have ht : t.span.LiesIn format := hmem (by simp)
  rw [Place.span]
  split
  · next o outer _ hstop hopens =>
    -- from where a conditional was opened, which is the start of an earlier token, to the end
    obtain ⟨items, header, rfl, hitems, -⟩ := h.reaches
    obtain ⟨u, hu, hstart⟩ := hitems.exists_token o (by simp [hopens])
    have hopening : u.span.LiesIn format := hmem (by simp [hu])
    have hle := hopening.start_le_stop.trans hopening.stop_le
    rw [hstart] at hle
    rw [h.span_of_stop hstop] at ht ⊢
    exact ⟨hstart ▸ hopening.start, ht.stop, hle, le_rfl⟩
  · exact ht

end Grammar

theorem Placed.span_of_problem? {level : Level} {setting : Setting} {placed : Placed} {found : Located}
    (h : placed.problem? level setting = some found) : placed.part.span? = some found.span := by
  rw [problem?, Option.or_eq_some_iff] at h
  rcases h with hsyntax | ⟨-, hmissing⟩
  · exact (Part.syntaxProblem?_eq_some_iff.1 hsyntax).2
  · exact (setting.missingProblem?_eq_some_iff.1 (Option.ite_none_right_eq_some.1 hmissing).2).2

namespace Node

variable {p : Span → Prop} {node : Node}

/-- The spans of the parts of a tree are those of its nodes. -/
theorem span_of_mem_parts (h : node.Everywhere fun n => ∀ span ∈ n.span?, p span) (around : List Guard) :
    ∀ placed ∈ node.parts around, ∀ span ∈ placed.part.span?, p span := by
  induction node generalizing around with
  | list items ih =>
    intro placed hplaced
    rw [parts, partsIn_eq_flatMap] at hplaced
    obtain ⟨n, hn, hmem⟩ := List.mem_flatMap.1 hplaced
    exact ih n hn ((everywhere_list.1 h).2 n hn) around placed hmem
  | conditional guard body ih => exact List.forall_mem_cons.2 ⟨h.1, ih h.2 (around ++ [guard])⟩
  | _ => exact List.forall_mem_singleton.2 h

theorem span_of_check (h : node.Everywhere fun n => ∀ span ∈ n.span?, p span) {level : Level} {setting : Setting}
    {found : Located} (hcheck : node.check level setting true = .error found) : p found.span := by
  have houtcome := check_eq_outcome level setting node []
  rw [List.all_nil, hcheck] at houtcome
  cases hfound : (node.parts []).findSome? (Placed.problem? level setting) with
  | none =>
    rw [hfound] at houtcome
    cases houtcome
  | some other =>
    rw [hfound] at houtcome
    cases houtcome
    obtain ⟨placed, hplaced, hproblem⟩ := List.exists_of_findSome?_eq_some hfound
    exact span_of_mem_parts h [] placed hplaced found.span (Placed.span_of_problem? hproblem)

end Node

namespace Template

variable {format : String} {error : TemplateError}

theorem liesIn_of_error (h : (ofFormat format).error? = some error) : error.span.LiesIn format := by
  obtain ⟨before, t, after, place, hbreaks⟩ := Grammar.exists_breaksAt h
  rw [hbreaks.error?_eq] at h
  obtain rfl := Option.some.inj h
  exact hbreaks.liesIn

theorem liesIn_of_verify {level : Level} {setting : Setting}
    (h : (ofFormat format).verify level setting = .error error) : error.span.LiesIn format := by
  rw [verify] at h
  cases herror : (ofFormat format).error? with
  | some found =>
    rw [herror] at h
    cases h
    exact liesIn_of_error herror
  | none =>
    rw [herror] at h
    cases hcheck : (ofFormat format).root.check level setting true with
    | ok =>
      rw [hcheck] at h
      cases h
    | error found =>
      rw [hcheck] at h
      cases h
      have hspans : (ofFormat format).root.Everywhere fun n => ∀ span ∈ n.span?, span.LiesIn format := by
        refine (Node.everywhere_root herror).imp fun n hn span hspan => ?_
        obtain ⟨source, hcovers, -⟩ := hn.1 span hspan
        exact hcovers.liesIn
      exact Node.span_of_check hspans hcheck

/-- The span of a directive is exactly the slice that it is read from, spans nest as directives do, and the span of
whatever problem is reported lies in the format string. -/
theorem spans_exact (format : String) :
    ((ofFormat format).error? = none →
        (ofFormat format).root.Everywhere fun node =>
          (∀ span ∈ node.span?, span.ReadsAs format node) ∧ node.Nests) ∧
      (∀ error, (ofFormat format).error? = some error → error.span.LiesIn format) ∧
      ∀ level setting error, (ofFormat format).verify level setting = .error error → error.span.LiesIn format :=
  ⟨Node.everywhere_root, fun _ => liesIn_of_error, fun _ _ _ => liesIn_of_verify⟩

/-- Behind a character of two bytes: a field inside of a conditional, a cause that is missing, and a conditional that is
left open. -/
theorem spans_exact_nested :
    (ofFormat "é%!m>0\x7b%s\x7bn\x7d\x7d$w").error? = none ∧
      ((ofFormat "é%!m>0\x7b%s\x7bn\x7d\x7d$w").root.Everywhere fun node =>
          (∀ span ∈ node.span?, span.ReadsAs "é%!m>0\x7b%s\x7bn\x7d\x7d$w" node) ∧ node.Nests) ∧
      (ofFormat "é%!m>0\x7b%s\x7bn\x7d\x7d$w").verifyPassed .empty .empty none =
        .error ⟨.causeNotInterpolatable, "é%!m>0\x7b%s\x7bn\x7d\x7d$w", ⟨14, 16⟩⟩ ∧
      (⟨14, 16⟩ : Span).LiesIn "é%!m>0\x7b%s\x7bn\x7d\x7d$w" ∧
      (ofFormat "é%!m>0\x7b").error? = some ⟨.missingCloseBrace, "é%!m>0\x7b", ⟨2, 8⟩⟩ ∧
      (⟨2, 8⟩ : Span).LiesIn "é%!m>0\x7b" := by
  obtain ⟨hdirectives, -, hverify⟩ := spans_exact "é%!m>0\x7b%s\x7bn\x7d\x7d$w"
  obtain ⟨-, herror, -⟩ := spans_exact "é%!m>0\x7b"
  have hread : (ofFormat "é%!m>0\x7b%s\x7bn\x7d\x7d$w").error? = none := by decide
  have hopen : (ofFormat "é%!m>0\x7b").error? = some ⟨.missingCloseBrace, "é%!m>0\x7b", ⟨2, 8⟩⟩ := by decide
  exact ⟨hread, hdirectives hread, by rfl, hverify .passed ⟨.empty, .empty, none⟩ _ rfl, hopen, herror _ hopen⟩

end Template

end Mishap
