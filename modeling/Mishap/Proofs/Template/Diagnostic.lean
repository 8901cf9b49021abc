import Mishap.Proofs.Template.Reading
import Mishap.Proofs.Template.Rendering

/-!
The message of a malformed format string. Main statement: it is the text of what was read before the violation, with
every conditional still open shown, then the spelling of the header that the violation cuts off, the diagnostic, and
the spelling of all tokens from the violation on.
-/

namespace Mishap.Grammar

open Node (renderItems)
open Verb.Formatted (join join_ok join_assoc)

/-- What tokens stand for when they are not interpreted. -/
def spelling : List Token → String
  | [] => ""
  | t :: rest => t.kind.spelling ++ spelling rest

/-- The nodes before and inside of open conditionals, as they stand in the text when every one of these is shown. -/
def shown : List Opening → List Node → List Node
  | [], nodes => nodes
  | o :: outer, nodes => shown outer (o.before ++ nodes)

/-- A format string that is malformed at the token `t`: before it there are `items`, which end between directives, and
`header`, which `t` cuts off. -/
structure CutOff (format : String) (items header : List Token) (t : Token) (after : List Token) (place : Place) :
    Prop where
  scan_eq : Token.scan format = ⟨.start, ⟨0, 0⟩⟩ :: (items ++ header ++ t :: after)
  unfinished : Unfinished items place.opens place.nodes
  pending : Pending header place.pending
  not_viable : ¬ Viable (⟨.start, ⟨0, 0⟩⟩ :: (items ++ header ++ [t]))

theorem spelling_append (tokens rest : List Token) : spelling (tokens ++ rest) = spelling tokens ++ spelling rest := by
  induction tokens with
  | nil => exact (String.empty_append).symm
  | cons t tokens ih => rw [List.cons_append, spelling, ih, spelling, String.append_assoc]

theorem shown_append (opens : List Opening) (nodes rest : List Node) :
    shown opens (nodes ++ rest) = shown opens nodes ++ rest := by
  induction opens generalizing nodes with
  | nil => rfl
  | cons o outer ih => rw [shown, shown, ← List.append_assoc, ih]

/-! ### Copying tokens behind the diagnostic -/

/-- The node that a token is copied as. -/
def copied (t : Token) : Node := .literal t.kind.spelling

theorem run_copied {parser : Parser} {error : TemplateError} (h : parser.phase = .halted error) (format : String)
    {tokens : List Token} (htokens : ∀ t ∈ tokens, t.kind ≠ .stop) (last : Span) :
    parser.run format (tokens ++ [⟨.stop, last⟩]) =
      { parser with items := (tokens.map copied).reverse ++ parser.items } := by
  induction tokens generalizing parser with
  | nil =>
    rw [List.nil_append, Parser.run, settle_halted h]
    rfl
  | cons t rest ih =>
    obtain ⟨ht, hrest⟩ := List.forall_mem_cons.1 htokens
    have hstep : parser.stepHalted t = .advance (parser.push (copied t)) := by
      rw [Parser.stepHalted]
      split
      · next hstop => exact absurd hstop ht
      · rfl
    have hpush : (parser.push (copied t)).phase = .halted error := h
    rw [List.cons_append, Parser.run, settle_halted h, hstep]
    simp only [ih hpush hrest]
    simp [Parser.push]

theorem renderItems_copied (setting : Setting) (tokens : List Token) :
    renderItems setting (tokens.map copied) = .ok (spelling tokens) := by
  induction tokens with
  | nil => rfl
  | cons t rest ih =>
    rw [List.map_cons, Node.renderItems_cons, ih]
    rfl

/-! ### Closing conditionals that are forced -/

/-- Conditionals that are forced and closed at the end show their bodies. -/
theorem renderItems_close_forced (setting : Setting) (stop : Nat) (opens : List Opening) (items : List Node) :
    renderItems setting (((opens.map Opening.frame).map Frame.force).foldl
      (fun items frame => frame.close items stop) items).reverse = renderItems setting (shown opens items.reverse) := by
  induction opens generalizing items with
  | nil => rfl
  | cons o outer ih =>
    let guard : Guard := ⟨o.scope, o.condition, true, ⟨o.start, stop⟩⟩
    have hclose : o.frame.force.close items stop = .conditional guard (.list items.reverse) :: o.before.reverse := rfl
    have hshows : setting.shows guard = true := rfl
    have hbody : renderItems setting [.conditional guard (.list items.reverse)] =
        renderItems setting items.reverse := by
      rw [Node.renderItems_singleton, Node.render, if_pos hshows, Node.render]
    rw [List.map_cons, List.map_cons, List.foldl_cons, ih, hclose, List.reverse_cons, List.reverse_reverse, shown,
      shown_append, shown_append, Node.renderItems_append, Node.renderItems_append, hbody]

/-! ### The header that is cut off -/

/-- What is left of a header that is not completed. -/
def abandoned : Option (Header × Nat) → List Node
  | some (header, _) => [.literal header.spelling]
  | none => []

/-- A header keeps the spelling of its tokens. -/
theorem Pending.renderItems_abandoned {header : List Token} {pending : Option (Header × Nat)}
    (h : Pending header pending) (setting : Setting) :
    renderItems setting (abandoned pending) = .ok (spelling header) := by
  cases h with
  | nothing => rfl
  | _ =>
    rw [abandoned, Node.renderItems_singleton, Node.render]
    simp [Header.spelling, spelling, Token.Kind.spelling, Token.Mark.spelling_field, Token.Mark.spelling_guard,
      Token.Mark.spelling_openBrace, String.append_assoc]

/-! ### The message -/

theorem CutOff.reaches {format : String} {items header after : List Token} {t : Token} {place : Place}
    (h : CutOff format items header t after place) : Reaches (items ++ header) place :=
  ⟨items, header, rfl, h.unfinished, h.pending⟩

theorem CutOff.not_start {format : String} {items header after : List Token} {t : Token} {place : Place}
    (h : CutOff format items header t after place) : t.kind ≠ .start := by
  obtain ⟨tokens, htokens, hframe⟩ := exists_tokens_before_stop h.scan_eq
  cases tokens with
  | nil => simp [(List.cons.inj htokens).1]
  | cons u tokens =>
    rw [(List.cons.inj htokens).1]
    exact (hframe u List.mem_cons_self).1

theorem CutOff.breaksAt {format : String} {items header after : List Token} {t : Token} {place : Place}
    (h : CutOff format items header t after place) : BreaksAt format (items ++ header) t after place where
  scan_eq := h.scan_eq
  reaches := h.reaches
  not_admits := by
    rw [← Bool.not_eq_true]
    intro hadmits
    exact h.not_viable ((h.reaches.viable_iff _ t).2 hadmits)
  not_start := h.not_start

theorem BreaksAt.exists_cutOff {format : String} {before after : List Token} {t : Token} {place : Place}
    (h : BreaksAt format before t after place) : ∃ items header, CutOff format items header t after place := by
  obtain ⟨items, header, rfl, hitems, hheader⟩ := h.reaches
  exact ⟨items, header, h.scan_eq, hitems, hheader, h.reaches.not_viable h.not_admits _⟩

/-- The nodes at the end of reading: what was read before the violation, what is left of the header, the diagnostic,
and a copy of the tokens from the violation on. -/
theorem CutOff.renderItems_nodes {format : String} {items header after : List Token} {t : Token} {place : Place}
    (h : CutOff format items header t after place) (setting : Setting) :
    renderItems setting ((Parser.run format Parser.initial (Token.scan format)).nodes format) =
      join (renderItems setting (shown place.opens place.nodes))
        (.ok (spelling header ++ (place.problem t.kind).diagnostic ++ spelling (t :: after))) := by
  obtain ⟨tokens, htokens, hframe⟩ := exists_tokens_before_stop h.scan_eq
  -- the parser right after the violation, before it copies anything
  let failed : Parser := place.parser.fail format (place.problem t.kind) (place.span t)
  let diagnostic : Node := .literal (place.problem t.kind).diagnostic
  have hitems : failed.items.reverse = place.nodes ++ (abandoned place.pending ++ [diagnostic]) := by
    obtain ⟨opens, nodes, pending⟩ := place
    cases pending <;> simp [failed, diagnostic, Parser.fail, Parser.abandonHeader, Place.parser, abandoned]
  have hrun : Parser.run format Parser.initial (Token.scan format) =
      { failed with items := (tokens.map copied).reverse ++ failed.items } := by
    rw [h.scan_eq, h.reaches.run, place.run_of_not_admits h.breaksAt.not_admits h.not_start, htokens]
    exact run_copied rfl format (fun u hu => (hframe u hu).2) _
  have hspelling : spelling (t :: after) = spelling tokens := by
    rw [htokens, spelling_append]
    exact String.append_empty
  have hnodes : renderItems setting (Parser.nodes format
        { failed with items := (tokens.map copied).reverse ++ failed.items }) =
      renderItems setting (shown place.opens ((tokens.map copied).reverse ++ failed.items).reverse) :=
    renderItems_close_forced setting _ place.opens _
  have hdiagnostic : renderItems setting [diagnostic] = .ok (place.problem t.kind).diagnostic :=
    Node.renderItems_singleton setting diagnostic
  rw [hrun, hnodes, List.reverse_append, List.reverse_reverse, hitems, List.append_assoc, List.append_assoc,
    shown_append, Node.renderItems_append, Node.renderItems_append, Node.renderItems_append,
    h.pending.renderItems_abandoned, hdiagnostic, renderItems_copied, hspelling, join_ok, join_ok, String.append_assoc]

/-- The message of a malformed format string shows the diagnostic and loses nothing from the violation on. -/
theorem render_of_error {format : String} {error : TemplateError}
    (herror : (Template.ofFormat format).error? = some error) :
    (∃ items header t after place, CutOff format items header t after place) ∧
      ∀ items header t after place, CutOff format items header t after place →
        Viable (⟨.start, ⟨0, 0⟩⟩ :: (items ++ header)) ∧ error.problem = place.problem t.kind ∧
          ∀ own passed cause, (Template.ofFormat format).render own passed cause =
            join (renderItems ⟨own, passed, cause⟩ (shown place.opens place.nodes))
              (.ok (spelling header ++ ("<!ERROR: " ++ error.problem.message ++ ">") ++ spelling (t :: after))) := by
  constructor
  · obtain ⟨before, t, after, place, hbreaks⟩ := exists_breaksAt herror
    obtain ⟨items, header, hcut⟩ := hbreaks.exists_cutOff
    exact ⟨items, header, t, after, place, hcut⟩
  · intro items header t after place hcut
    obtain rfl : ⟨place.problem t.kind, format, place.span t⟩ = error := by
      rw [hcut.breaksAt.error?_eq] at herror
      exact Option.some.inj herror
    refine ⟨hcut.reaches.viable _, rfl, fun own passed cause => ?_⟩
    have hroot : (Template.ofFormat format).root =
        (Node.list ((Parser.run format Parser.initial (Token.scan format)).nodes format)).simplify := rfl
    rw [Template.render, hroot, Node.render_simplify, Node.render]
    exact hcut.renderItems_nodes _

/-- A header is cut off by the end, inside of a conditional that does not hold. -/
theorem render_of_error_at_end :
    (Template.ofFormat "%!m>0\x7bb$d").error? = some ⟨.expectedOpenBrace .verb .stop, "%!m>0\x7bb$d", ⟨9, 9⟩⟩ ∧
      (Template.ofFormat "%!m>0\x7bb$d").render .empty .empty none =
        .ok "b$d<!ERROR: expected '\x7b' after the format verb, found end of input>" := by
  let items : List Token :=
    [⟨.mark (.guard .own), ⟨0, 2⟩⟩, ⟨.text "m>0", ⟨2, 5⟩⟩, ⟨.mark .openBrace, ⟨5, 6⟩⟩, ⟨.text "b", ⟨6, 7⟩⟩]
  let header : List Token := [⟨.mark (.field .passed), ⟨7, 8⟩⟩, ⟨.text "d", ⟨8, 9⟩⟩]
  let place : Place := ⟨[⟨.own, "m>0", 0, []⟩], [.literal "b"], some (.verb .passed "d", 7)⟩
  have herror : (Template.ofFormat "%!m>0\x7bb$d").error? =
      some ⟨.expectedOpenBrace .verb .stop, "%!m>0\x7bb$d", ⟨9, 9⟩⟩ := by decide
  have hitems : Unfinished items place.opens place.nodes := .inside (.outside .nil) (.text .nil)
  have hheader : Pending header place.pending := .verb
  have hreaches : Reaches (items ++ header) place := ⟨items, header, rfl, hitems, hheader⟩
  have hcut : CutOff "%!m>0\x7bb$d" items header ⟨.stop, ⟨9, 9⟩⟩ [] place :=
    ⟨by decide, hitems, hheader, hreaches.not_viable rfl _⟩
  refine ⟨herror, ?_⟩
  rw [((render_of_error herror).2 _ _ _ _ _ hcut).2.2 .empty .empty none]
  rfl

end Mishap.Grammar
