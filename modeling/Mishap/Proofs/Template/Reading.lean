import Mishap.Proofs.Template.Grammar
import Mishap.Proofs.Template.Scanning
import Mishap.Template

/-!
What the parser makes of tokens, by the grammar: it stands at the place that the tokens lead to, and breaks off at the
first token that cannot come next. Main statement: a format string has no problem exactly if its tokens are an input of
the grammar, and otherwise its problem is that of the first token behind which no input goes on.
-/

namespace Mishap.Grammar

/-- The open conditional as the parser keeps it. -/
def Opening.frame (o : Opening) : Frame := ⟨o.scope, o.condition, o.start, false, o.before.reverse⟩

/-- The parser at a place. -/
def Place.parser (place : Place) : Parser where
  phase := match place.pending with
    | some (header, start) => .header header start
    | none => .sequence
  items := place.nodes.reverse
  frames := place.opens.map Opening.frame

/-! ### Reading up to a place -/

/-- A sequence is read onto the nodes that are there already. -/
theorem Sequence.run {tokens : List Token} {nodes : List Node} (h : Sequence tokens nodes) (format : String)
    (items : List Node) (frames : List Frame) (rest : List Token) :
    Parser.run format ⟨.sequence, items, frames⟩ (tokens ++ rest) =
      Parser.run format ⟨.sequence, nodes.reverse ++ items, frames⟩ rest := by
  have hcons (node : Node) (nodes items : List Node) :
      (node :: nodes).reverse ++ items = nodes.reverse ++ node :: items := by simp
  induction h generalizing items frames rest with
  | nil => rfl
  | text _ ih => rw [hcons]; exact ih (_ :: items) frames rest
  | wrap _ ih => rw [hcons]; exact ih (_ :: items) frames rest
  | field _ ih => rw [hcons]; exact ih (_ :: items) frames rest
  | verbField _ ih => rw [hcons]; exact ih (_ :: items) frames rest
  | @conditional scope condition a b c d inner body tail nodes _ _ ihbody ih =>
    let frame : Frame := ⟨scope, condition, a.start, false, items⟩
    let closing : Token := ⟨.mark .closeBrace, d⟩
    have happend : inner ++ closing :: (tail ++ rest) = inner ++ closing :: tail ++ rest := by simp
    -- the body is read onto an empty block, inside a frame of its own
    calc
      _ = Parser.run format ⟨.sequence, [], frame :: frames⟩ (inner ++ closing :: (tail ++ rest)) := by
        rw [happend]
        rfl
      _ = Parser.run format ⟨.sequence, body.reverse ++ [], frame :: frames⟩ (closing :: (tail ++ rest)) :=
        ihbody [] (frame :: frames) (closing :: (tail ++ rest))
      _ = Parser.run format ⟨.sequence, frame.close (body.reverse ++ []) d.stop, frames⟩ (tail ++ rest) := rfl
      _ = Parser.run format ⟨.sequence, nodes.reverse ++ frame.close (body.reverse ++ []) d.stop, frames⟩ rest :=
        ih _ frames rest
      _ = _ := by simp [Frame.close, Frame.guard, frame]

theorem Unfinished.run {tokens : List Token} {opens : List Opening} {nodes : List Node}
    (h : Unfinished tokens opens nodes) (format : String) (rest : List Token) :
    Parser.run format Parser.initial (tokens ++ rest) =
      Parser.run format (Place.parser ⟨opens, nodes, none⟩) rest := by
  induction h generalizing rest with
  | outside h =>
    rw [Parser.initial, h.run]
    simp [Place.parser]
  | @inside tokens opens before scope condition a b c inner nodes _ body ih =>
    rw [List.append_assoc, ih]
    have h := body.run format [] ((Opening.mk scope condition a.start before).frame :: opens.map Opening.frame) rest
    rw [List.append_nil] at h
    exact h

theorem Pending.run {header : List Token} {pending : Option (Header × Nat)} (h : Pending header pending)
    (format : String) (opens : List Opening) (nodes : List Node) (rest : List Token) :
    Parser.run format (Place.parser ⟨opens, nodes, none⟩) (header ++ rest) =
      Parser.run format (Place.parser ⟨opens, nodes, pending⟩) rest := by
  cases h <;> rfl

/-- The parser stands at the place that the tokens lead to. -/
theorem Reaches.run {tokens : List Token} {place : Place} (h : Reaches tokens place) (format : String)
    (first : Span) (rest : List Token) :
    Parser.run format Parser.initial (⟨.start, first⟩ :: (tokens ++ rest)) = place.parser.run format rest := by
  obtain ⟨items, header, rfl, hitems, hheader⟩ := h
  have hstart : Parser.run format Parser.initial (⟨.start, first⟩ :: (items ++ header ++ rest)) =
      Parser.run format Parser.initial (items ++ header ++ rest) := rfl
  rw [hstart, List.append_assoc, hitems.run, hheader.run]

/-! ### Breaking off -/

theorem settle_halted {parser : Parser} {error : TemplateError} (h : parser.phase = .halted error) (format : String)
    (t : Token) : parser.settle format t = parser.stepHalted t := by
  have hstep : parser.step format t = parser.stepHalted t := by rw [Parser.step, h]
  have hnot : ∀ next, parser.stepHalted t ≠ .again next := by
    intro next
    rw [Parser.stepHalted]
    split <;> simp
  rw [Parser.settle, hstep]
  split
  · next next hnext => exact absurd hnext (hnot next)
  · rfl

/-- Later tokens leave the first problem as it is. -/
theorem run_halted {parser : Parser} {error : TemplateError} (h : parser.phase = .halted error) (format : String)
    (tokens : List Token) : (parser.run format tokens).phase = .halted error := by
  induction tokens generalizing parser with
  | nil => exact h
  | cons t rest ih =>
    rw [Parser.run, settle_halted h, Parser.stepHalted]
    cases t.kind with
    | stop => exact h
    | _ => exact ih h

/-- A token that cannot come next is read again after its problem has been put into the tree. -/
theorem Place.step_of_not_admits {place : Place} {t : Token} (hadmits : place.admits t.kind = false)
    (hstart : t.kind ≠ .start) (format : String) :
    place.parser.step format t = .again (place.parser.fail format (place.problem t.kind) (place.span t)) := by
  obtain ⟨opens, nodes, pending⟩ := place
  obtain ⟨kind, span⟩ := t
  -- the case of a token that is admitted contradicts `hadmits`, any other is a step of the parser
  cases pending with
  | none =>
    match kind with
    | .start => exact absurd rfl hstart
    | .text _ | .mark (.field _) | .mark (.guard _) | .mark (.wrap _) => simp [Place.admits] at hadmits
    | .mark .openBrace => cases opens <;> rfl
    | .mark .closeBrace =>
      cases opens with
      | nil => rfl
      | cons o outer => simp [Place.admits] at hadmits
    | .stop =>
      cases opens with
      | nil => simp [Place.admits] at hadmits
      | cons o outer => rfl
  | some pending =>
    obtain ⟨header, start⟩ := pending
    cases header <;> rcases kind with _ | _ | s | m <;> try cases m
    all_goals first | rfl | simp [Place.admits, continues] at hadmits

/-- From a token that cannot come next on, the parser goes on as after the problem. -/
theorem Place.run_of_not_admits {place : Place} {t : Token} (hadmits : place.admits t.kind = false)
    (hstart : t.kind ≠ .start) (format : String) (rest : List Token) :
    place.parser.run format (t :: rest) =
      (place.parser.fail format (place.problem t.kind) (place.span t)).run format (t :: rest) := by
  have hsettle : place.parser.settle format t =
      (place.parser.fail format (place.problem t.kind) (place.span t)).settle format t := by
    rw [Parser.settle, place.step_of_not_admits hadmits hstart, settle_halted rfl]
    rfl
  rw [Parser.run, hsettle, Parser.run]

/-! ### Inputs and violations -/

/-- An input is read without a problem, as the nodes that it stands for. -/
theorem Sequence.ofTokens {inner : List Token} {nodes : List Node} (h : Sequence inner nodes) (format : String)
    (first last : Span) :
    ParsedTemplate.ofTokens format (⟨.start, first⟩ :: (inner ++ [⟨.stop, last⟩])) =
      ⟨(Node.list nodes).simplify, none⟩ := by
  have hrun := (Reaches.of_unfinished (.outside h)).run format first [⟨.stop, last⟩]
  have hlast : (Place.parser ⟨[], nodes, none⟩).run format [⟨.stop, last⟩] = ⟨.sequence, nodes.reverse, []⟩ := rfl
  rw [ParsedTemplate.ofTokens, hrun, hlast]
  simp [Parser.nodes, Parser.abandonHeader, Parser.error?]

/-- The first token that cannot come next determines the problem. -/
theorem Reaches.error_ofTokens {before : List Token} {place : Place} (h : Reaches before place) {t : Token}
    (hadmits : place.admits t.kind = false) (hstart : t.kind ≠ .start) (format : String) (first : Span)
    (later : List Token) :
    (ParsedTemplate.ofTokens format (⟨.start, first⟩ :: (before ++ t :: later))).error =
      some ⟨place.problem t.kind, format, place.span t⟩ := by
  have hrun := h.run format first (t :: later)
  rw [place.run_of_not_admits hadmits hstart] at hrun
  have hphase : ((place.parser.fail format (place.problem t.kind) (place.span t)).run format (t :: later)).phase =
      .halted ⟨place.problem t.kind, format, place.span t⟩ := run_halted rfl format (t :: later)
  rw [ParsedTemplate.ofTokens, hrun]
  simp only [Parser.error?, hphase]

theorem Input.not_start {first : Span} {tokens rest : List Token} {t : Token}
    (h : Input (⟨.start, first⟩ :: (tokens ++ t :: rest))) : t.kind ≠ .start := by
  obtain ⟨a, b, inner, nodes, heq, hinner⟩ := h
  have hmem : t ∈ inner ++ [⟨.stop, b⟩] := by
    rw [← (List.cons.inj heq).2]
    simp
  rcases List.mem_append.1 hmem with hmem | hmem
  · exact (hinner.not_frame t hmem).1
  · simp [List.mem_singleton.1 hmem]

theorem Reaches.not_viable {before : List Token} {place : Place} (h : Reaches before place) {t : Token}
    (hadmits : place.admits t.kind = false) (first : Span) : ¬ Viable (⟨.start, first⟩ :: (before ++ [t])) := by
  rintro ⟨rest, hinput⟩
  rw [List.cons_append, List.append_assoc, List.singleton_append] at hinput
  -- an input is read without a problem, but here reading breaks off at `t`
  have herror := h.error_ofTokens hadmits hinput.not_start "" first rest
  obtain ⟨a, b, inner, nodes, heq, hinner⟩ := hinput
  rw [heq, hinner.ofTokens] at herror
  simp at herror

/-- Where the end can come next, nothing is left open. -/
theorem Reaches.sequence {tokens : List Token} {place : Place} (h : Reaches tokens place)
    (hadmits : place.admits .stop) : Sequence tokens place.nodes := by
  obtain ⟨items, header, rfl, hitems, hheader⟩ := h
  obtain ⟨opens, nodes, pending⟩ := place
  cases pending with
  | some pending =>
    obtain ⟨header, start⟩ := pending
    cases header <;> simp [Place.admits, continues] at hadmits
  | none =>
    obtain rfl : opens = [] := by simpa [Place.admits] using hadmits
    cases hheader with
    | nothing =>
      cases hitems with
      | outside h => rwa [List.append_nil]

/-- The tokens that can come next are those with which an input goes on. -/
theorem Reaches.viable_iff {before : List Token} {place : Place} (h : Reaches before place) (first : Span)
    (t : Token) : Viable (⟨.start, first⟩ :: (before ++ [t])) ↔ place.admits t.kind := by
  refine ⟨fun hviable => ?_, fun hadmits => ?_⟩
  · by_contra hadmits
    exact h.not_viable (by simpa using hadmits) first hviable
  · by_cases hstop : t.kind = .stop
    · obtain ⟨kind, span⟩ := t
      obtain rfl : kind = .stop := hstop
      exact ⟨[], first, span, before, place.nodes, by simp, h.sequence hadmits⟩
    · obtain ⟨next, hnext⟩ := h.next hadmits hstop
      exact hnext.viable first

/-- Tokens lead to a place as far as they can come next. -/
theorem Reaches.extend {read : List Token} {place : Place} (h : Reaches read place) {tokens : List Token}
    (hstop : ∀ t ∈ tokens, t.kind ≠ .stop) :
    (∃ next, Reaches (read ++ tokens) next) ∨
      ∃ before t after next, tokens = before ++ t :: after ∧ Reaches (read ++ before) next ∧
        next.admits t.kind = false := by
  induction tokens generalizing read place with
  | nil => exact Or.inl ⟨place, by rwa [List.append_nil]⟩
  | cons t rest ih =>
    obtain ⟨ht, hrest⟩ := List.forall_mem_cons.1 hstop
    cases hadmits : place.admits t.kind with
    | false => exact Or.inr ⟨[], t, rest, place, rfl, by rwa [List.append_nil], hadmits⟩
    | true =>
      obtain ⟨next, hnext⟩ := h.next hadmits ht
      rcases ih hnext hrest with ⟨last, hlast⟩ | ⟨before, u, after, last, rfl, hlast, hadmits⟩
      · exact Or.inl ⟨last, by simpa using hlast⟩
      · exact Or.inr ⟨t :: before, u, after, last, rfl, by simpa using hlast, hadmits⟩

/-- The tokens inside a format string are a sequence, or one of them, or the end, cannot come next. -/
theorem sequence_or_violation {inner : List Token} (hinner : ∀ t ∈ inner, t.kind ≠ .start ∧ t.kind ≠ .stop)
    (last : Span) :
    (∃ nodes, Sequence inner nodes) ∨
      ∃ before t after place, inner ++ [⟨.stop, last⟩] = before ++ t :: after ∧ Reaches before place ∧
        place.admits t.kind = false ∧ t.kind ≠ .start := by
  have hempty : Reaches [] ⟨[], [], none⟩ := .of_unfinished (.outside .nil)
  rcases hempty.extend fun t ht => (hinner t ht).2 with
    ⟨place, hplace⟩ | ⟨before, t, after, place, rfl, hplace, hadmits⟩
  · rw [List.nil_append] at hplace
    cases hstop : place.admits .stop with
    | true => exact Or.inl ⟨place.nodes, hplace.sequence hstop⟩
    | false => exact Or.inr ⟨inner, ⟨.stop, last⟩, [], place, rfl, hplace, hstop, by simp⟩
  · exact Or.inr ⟨before, t, after ++ [⟨.stop, last⟩], place, by simp, hplace, hadmits, (hinner t (by simp)).1⟩

theorem not_frame_of_kinds {inner : List Token} {parts : List Token.Lexeme}
    (hkinds : inner.map Token.kind = Token.kinds [] parts) : ∀ t ∈ inner, t.kind ≠ .start ∧ t.kind ≠ .stop := by
  intro t ht
  have hmem : t.kind ∈ Token.kinds [] parts := hkinds ▸ List.mem_map_of_mem ht
  rcases Token.mem_kinds hmem with ⟨s, hs, -⟩ | ⟨m, hm⟩
  · simp [hs]
  · simp [hm]

/-- From any token on, the tokens of a format string go up to the end, which is the last of them and the only one. -/
theorem exists_tokens_before_stop {format : String} {before after : List Token} {t : Token}
    (h : Token.scan format = ⟨.start, ⟨0, 0⟩⟩ :: (before ++ t :: after)) :
    ∃ tokens, t :: after = tokens ++ [⟨.stop, ⟨format.utf8ByteSize, format.utf8ByteSize⟩⟩] ∧
      ∀ u ∈ tokens, u.kind ≠ .start ∧ u.kind ≠ .stop := by
  obtain ⟨inner, hkinds, hscan⟩ := Token.scan_eq format
  have heq : inner ++ [⟨.stop, ⟨format.utf8ByteSize, format.utf8ByteSize⟩⟩] = before ++ t :: after :=
    (List.cons.inj (hscan.symm.trans h)).2
  obtain ⟨tokens, last, hlast⟩ : ∃ tokens last, t :: after = tokens ++ [last] :=
    ⟨_, _, (List.dropLast_concat_getLast (List.cons_ne_nil t after)).symm⟩
  rw [hlast, ← List.append_assoc] at heq
  obtain ⟨rfl, hstop⟩ := List.append_inj' heq rfl
  obtain rfl := List.singleton_inj.1 hstop
  exact ⟨tokens, hlast, fun u hu => not_frame_of_kinds hkinds u (List.mem_append_right before hu)⟩

/-- Reading a format string breaks off at the token `t`, which cannot come at the place that it is read at. -/
structure BreaksAt (format : String) (before : List Token) (t : Token) (after : List Token) (place : Place) : Prop where
  scan_eq : Token.scan format = ⟨.start, ⟨0, 0⟩⟩ :: (before ++ t :: after)
  reaches : Reaches before place
  not_admits : place.admits t.kind = false
  not_start : t.kind ≠ .start

theorem BreaksAt.error?_eq {format : String} {before after : List Token} {t : Token} {place : Place}
    (h : BreaksAt format before t after place) :
    (Template.ofFormat format).error? = some ⟨place.problem t.kind, format, place.span t⟩ := by
  have herror := h.reaches.error_ofTokens h.not_admits h.not_start format ⟨0, 0⟩ after
  rwa [← h.scan_eq] at herror

/-- The tokens of a format string are an input, or reading it breaks off. -/
theorem input_or_breaksAt (format : String) :
    (∃ inner nodes, inner.map Token.kind = Token.kinds [] (Token.lexemes format.toList) ∧
        Token.scan format = ⟨.start, ⟨0, 0⟩⟩ :: (inner ++ [⟨.stop, ⟨format.utf8ByteSize, format.utf8ByteSize⟩⟩]) ∧
        Sequence inner nodes) ∨
      ∃ before t after place, BreaksAt format before t after place := by
  obtain ⟨inner, hkinds, hscan⟩ := Token.scan_eq format
  rcases sequence_or_violation (not_frame_of_kinds hkinds) ⟨format.utf8ByteSize, format.utf8ByteSize⟩ with
    ⟨nodes, hnodes⟩ | ⟨before, t, after, place, heq, hplace, hadmits, hstart⟩
  · exact Or.inl ⟨inner, nodes, hkinds, hscan, hnodes⟩
  · exact Or.inr ⟨before, t, after, place, by rw [hscan, heq], hplace, hadmits, hstart⟩

theorem error?_of_input {format : String} (h : Input (Token.scan format)) :
    (Template.ofFormat format).error? = none := by
  obtain ⟨a, b, inner, nodes, heq, hinner⟩ := h
  have hread := hinner.ofTokens format a b
  rw [← heq] at hread
  exact congrArg ParsedTemplate.error hread

theorem exists_breaksAt {format : String} {error : TemplateError} (h : (Template.ofFormat format).error? = some error) :
    ∃ before t after place, BreaksAt format before t after place := by
  rcases input_or_breaksAt format with ⟨inner, nodes, -, hscan, hinner⟩ | hbreaks
  · rw [error?_of_input ⟨_, _, inner, nodes, hscan, hinner⟩] at h
    simp at h
  · exact hbreaks

/-- What a format string without a problem is read as. -/
theorem exists_sequence {format : String} (h : (Template.ofFormat format).error? = none) :
    ∃ inner nodes, inner.map Token.kind = Token.kinds [] (Token.lexemes format.toList) ∧
      Token.scan format = ⟨.start, ⟨0, 0⟩⟩ :: (inner ++ [⟨.stop, ⟨format.utf8ByteSize, format.utf8ByteSize⟩⟩]) ∧
      Sequence inner nodes ∧ (Template.ofFormat format).root = (Node.list nodes).simplify := by
  rcases input_or_breaksAt format with ⟨inner, nodes, hkinds, hscan, hinner⟩ | ⟨before, t, after, place, hbreaks⟩
  · have hparsed := hinner.ofTokens format ⟨0, 0⟩ ⟨format.utf8ByteSize, format.utf8ByteSize⟩
    rw [← hscan] at hparsed
    exact ⟨inner, nodes, hkinds, hscan, hinner, congrArg ParsedTemplate.root hparsed⟩
  · rw [hbreaks.error?_eq] at h
    simp at h

theorem BreaksAt.span_of_stop {format : String} {before after : List Token} {t : Token} {place : Place}
    (h : BreaksAt format before t after place) (hstop : t.kind = .stop) :
    t.span = ⟨format.utf8ByteSize, format.utf8ByteSize⟩ := by
  obtain ⟨tokens, htokens, hframe⟩ := exists_tokens_before_stop h.scan_eq
  have hmem : t ∈ tokens ++ [⟨.stop, ⟨format.utf8ByteSize, format.utf8ByteSize⟩⟩] := htokens ▸ List.mem_cons_self
  rcases List.mem_append.1 hmem with hmem | hmem
  · exact absurd hstop (hframe t hmem).2
  · rw [List.mem_singleton.1 hmem]

/-- What an error reports: the tokens `before` are the first ones of an input, and with the token `t` they no longer
are. The span of the error is that of `t` but for a conditional left open at the end. -/
structure LeftmostViolation (format : String) (error : TemplateError) (before : List Token) (t : Token)
    (after : List Token) (place : Place) : Prop where
  scan_eq : Token.scan format = ⟨.start, ⟨0, 0⟩⟩ :: (before ++ t :: after)
  viable : Viable (⟨.start, ⟨0, 0⟩⟩ :: before)
  not_viable : ¬ Viable (⟨.start, ⟨0, 0⟩⟩ :: (before ++ [t]))
  reaches : Reaches before place
  error_eq : error = ⟨place.problem t.kind, format, place.span t⟩
  span_of_stop : t.kind = .stop → t.span = ⟨format.utf8ByteSize, format.utf8ByteSize⟩
  /-- The problem says which tokens could have come instead. -/
  expected_iff : ∀ u, Viable (⟨.start, ⟨0, 0⟩⟩ :: (before ++ [u])) ↔
    expected (!place.opens.isEmpty) error.problem u.kind
  /-- Later tokens change nothing. -/
  error_of_later : ∀ later,
    (ParsedTemplate.ofTokens format (⟨.start, ⟨0, 0⟩⟩ :: (before ++ t :: later))).error = some error

theorem BreaksAt.leftmostViolation {format : String} {before after : List Token} {t : Token} {place : Place}
    (h : BreaksAt format before t after place) :
    LeftmostViolation format ⟨place.problem t.kind, format, place.span t⟩ before t after place where
  scan_eq := h.scan_eq
  viable := h.reaches.viable _
  not_viable := h.reaches.not_viable h.not_admits _
  reaches := h.reaches
  error_eq := rfl
  span_of_stop := h.span_of_stop
  expected_iff u := by rw [h.reaches.viable_iff, place.admits_eq_expected t.kind]
  error_of_later later := h.reaches.error_ofTokens h.not_admits h.not_start format _ later

/-- Reading accepts exactly the inputs of the grammar, and reports the leftmost violation of any other. -/
theorem reads_grammar (format : String) :
    ((Template.ofFormat format).error? = none ↔ Input (Token.scan format)) ∧
      ∀ error, (Template.ofFormat format).error? = some error →
        ∃ before t after place, LeftmostViolation format error before t after place := by
  refine ⟨⟨fun hnone => ?_, error?_of_input⟩, fun error herror => ?_⟩
  · obtain ⟨inner, nodes, -, hscan, hinner, -⟩ := exists_sequence hnone
    exact ⟨_, _, inner, nodes, hscan, hinner⟩
  · obtain ⟨before, t, after, place, hbreaks⟩ := exists_breaksAt herror
    rw [hbreaks.error?_eq] at herror
    obtain rfl := Option.some.inj herror
    exact ⟨before, t, after, place, hbreaks.leftmostViolation⟩

/-- A conditional left open is marked from its start to the end. -/
theorem reads_grammar_open_conditional :
    (Template.ofFormat "a%!m=0\x7b%w").error? = some ⟨.missingCloseBrace, "a%!m=0\x7b%w", ⟨1, 9⟩⟩ ∧
      ∃ before t after place, LeftmostViolation "a%!m=0\x7b%w"
        ⟨.missingCloseBrace, "a%!m=0\x7b%w", ⟨1, 9⟩⟩ before t after place :=
  ⟨by decide, (reads_grammar "a%!m=0\x7b%w").2 _ (by decide)⟩

end Mishap.Grammar
