import Mishap.Proofs.Template.Machine
import Mishap.Proofs.Template.Scanning
import Mishap.Proofs.Template.Simplified

/-!
The loop in which the machine reads tokens, one turn at a time, whatever the tokens are. Main statement: the loop takes at
most one turn more than there are tokens, since it reads a token again at most once; the fields of the machine fit
together at every turn; and so nothing is ever fallen back on, and the tree is the one of the parser.
-/

namespace Mishap

namespace Machine

/-- The states in which a field is being read. -/
def State.readsField : State → Bool
  | expectVerb | expectOpenBraceAfterVerb | expectName | expectCloseBraceAfterName => true
  | _ => false

/-- The states in which the head of a conditional is being read. -/
def State.readsConditional : State → Bool
  | expectCondition | expectOpenBraceAfterCondition => true
  | _ => false

/-- The fields of a machine fit together. -/
structure Consistent (m : Machine) : Prop where
  blocks : ∃ inner bottom, m.blocks = inner ++ [bottom] ∧ bottom.header = none ∧ ∀ block ∈ inner, block.header.isSome
  pending_iff : m.pending.isSome ↔ m.state.readsField ∨ m.state.readsConditional
  field : m.state.readsField →
    ∃ scope verb name start raw, m.pending = some ⟨.field scope verb name, start, raw⟩
  conditional : m.state.readsConditional →
    ∃ scope condition start raw, m.pending = some ⟨.conditional scope condition, start, raw⟩
  name : m.state = .expectCloseBraceAfterName →
    ∃ scope verb name start raw, m.pending = some ⟨.field scope verb (some name), start, raw⟩
  condition : m.state = .expectOpenBraceAfterCondition →
    ∃ scope condition start raw, m.pending = some ⟨.conditional scope (some condition), start, raw⟩
  error_iff : m.error.isSome ↔ m.state = .errorSink
  forced : m.state = .errorSink → ∀ block ∈ m.blocks, ∀ head ∈ block.header, head.forced

/-- The tokens that are left when a token has been read. -/
def Verdict.left (token : Token) (rest : List Token) : Verdict → List Token
  | advance => rest
  | again => token :: rest
  | done => []

end Machine

/-- The loop over the tokens: the machine, the tokens from the current one on, and what became of the current token at
each turn so far, the last one first. -/
structure Driver where
  machine : Machine
  left : List Token
  verdicts : List Machine.Verdict

namespace Driver

/-- One turn reads the current token. Where no token is left the loop is over. -/
def turn (format : String) (d : Driver) : Driver :=
  match d.left with
  | [] => d
  | token :: rest =>
    let read := (Machine.step format token).run d.machine
    ⟨read.2, read.1.left token rest, read.1 :: d.verdicts⟩

/-- The loop after so many turns. -/
def after (format : String) (tokens : List Token) : Nat → Driver
  | 0 => ⟨.initial, tokens, []⟩
  | n + 1 => (after format tokens n).turn format

end Driver

/-! ### Steps of the parser -/

namespace Parser

/-- How often the parser can still break off. -/
def breaks (p : Parser) : Nat := if p.error?.isSome then 0 else 1

theorem breaks_congr {p next : Parser} (h : next.error? = p.error?) : next.breaks = p.breaks := by
  rw [breaks, h, breaks]

theorem breaks_of_no_problem {p : Parser} (h : p.error? = none) : p.breaks = 1 := by
  rw [breaks, h]
  rfl

theorem breaks_fail (format : String) (p : Parser) (problem : Problem) (span : Span) :
    (p.fail format problem span).breaks = 0 := rfl

/-- With a problem, all open conditionals are forced. -/
def Forced (p : Parser) : Prop := p.error?.isSome → ∀ frame ∈ p.frames, frame.forced

theorem forced_initial : Forced initial := by simp [Forced, initial, error?]

theorem forced_fail (format : String) (p : Parser) (problem : Problem) (span : Span) :
    (p.fail format problem span).Forced := by
  rintro - frame hframe
  obtain ⟨frame, -, rfl⟩ := List.mem_map.1 hframe
  rfl

/-- What a step does: it goes on, with as much of a problem as before, and with one it leaves the open conditionals
alone; or it breaks off, which happens only as long as there is no problem; or it ends. -/
theorem step_cases (format : String) (p : Parser) (token : Token) :
    (∃ next, p.step format token = .advance next ∧ next.error? = p.error? ∧
        (p.error?.isSome → next.frames = p.frames)) ∨
      (∃ problem span, p.step format token = .again (p.fail format problem span) ∧ p.error? = none) ∨
      p.step format token = .done p := by
  obtain ⟨phase, items, frames⟩ := p
  cases phase with
  | sequence =>
    obtain ⟨kind, span⟩ := token
    cases kind with
    | start | text => exact .inl ⟨_, rfl, rfl, by simp [error?]⟩
    | mark m =>
      cases m with
      | field | guard | wrap => exact .inl ⟨_, rfl, rfl, by simp [error?]⟩
      | openBrace => exact .inr (.inl ⟨_, _, rfl, rfl⟩)
      | closeBrace =>
        cases frames with
        | nil => exact .inr (.inl ⟨_, _, rfl, rfl⟩)
        | cons frame outer => exact .inl ⟨_, rfl, rfl, by simp [error?]⟩
    | stop =>
      cases frames with
      | nil => exact .inr (.inr rfl)
      | cons frame outer => exact .inr (.inl ⟨_, _, rfl, rfl⟩)
  | header header start =>
    have hstep : step format ⟨.header header start, items, frames⟩ token =
        stepHeader format ⟨.header header start, items, frames⟩ header start token := rfl
    rw [hstep, stepHeader.eq_def]
    split
    -- the last case is the one of a token that cannot follow the header
    case h_8 => exact .inr (.inl ⟨_, _, rfl, rfl⟩)
    all_goals exact .inl ⟨_, rfl, rfl, by simp [error?]⟩
  | halted error =>
    obtain ⟨kind, span⟩ := token
    cases kind with
    | stop => exact .inr (.inr rfl)
    | start | text | mark => exact .inl ⟨_, rfl, rfl, fun _ => rfl⟩

/-- With a problem no step breaks off. -/
theorem settle_of_problem {p : Parser} (h : p.error?.isSome) (format : String) (token : Token) :
    p.settle format token = p.step format token := by
  rcases p.step_cases format token with ⟨next, hstep, -⟩ | ⟨_, _, -, hnone⟩ | hstep
  · rw [settle, hstep]
  · simp [hnone] at h
  · rw [settle, hstep]

variable {format : String} {p next : Parser} {token : Token}

theorem run_of_advance (h : p.step format token = .advance next) (rest : List Token) :
    p.run format (token :: rest) = next.run format rest := by
  rw [run, settle, h]

theorem run_of_again (h : p.step format token = .again next) (hnext : next.error?.isSome) (rest : List Token) :
    p.run format (token :: rest) = next.run format (token :: rest) := by
  rw [run, settle, h, run, settle_of_problem hnext]

theorem run_of_done (h : p.step format token = .done next) (rest : List Token) :
    p.run format (token :: rest) = next := by
  rw [run, settle, h]

end Parser

/-! ### Fields that fit together -/

namespace Machine

theorem exists_bottom_blocksOf (items : List Node) (frames : List Frame) :
    ∃ inner bottom, blocksOf items frames = inner ++ [bottom] ∧ bottom.header = none ∧
      ∀ block ∈ inner, block.header.isSome := by
  induction frames generalizing items with
  | nil => exact ⟨[], _, rfl, rfl, by simp⟩
  | cons frame outer ih =>
    obtain ⟨inner, bottom, heq, hbottom, hinner⟩ := ih frame.before
    exact ⟨⟨items, some frame.head⟩ :: inner, bottom, by rw [blocksOf, heq, List.cons_append], hbottom,
      List.forall_mem_cons.2 ⟨rfl, hinner⟩⟩

theorem forced_blocksOf (items : List Node) {frames : List Frame} (h : ∀ frame ∈ frames, frame.forced) :
    ∀ block ∈ blocksOf items frames, ∀ head ∈ block.header, head.forced := by
  induction frames generalizing items with
  | nil => simp [blocksOf]
  | cons frame outer ih =>
    obtain ⟨hframe, houter⟩ := List.forall_mem_cons.1 h
    refine List.forall_mem_cons.2 ⟨?_, ih _ houter⟩
    rintro head ⟨⟩
    exact hframe

/-- The fields of a parser that is taken apart fit together. -/
theorem consistent_ofParser {p : Parser} (h : p.Forced) : (ofParser p).Consistent := by
  obtain ⟨phase, items, frames⟩ := p
  have hblocks := exists_bottom_blocksOf items frames
  cases phase with
  | sequence => constructor <;> simp [ofParser, hblocks, State.readsField, State.readsConditional]
  | header header start =>
    cases header <;> constructor <;>
      simp [ofParser, hblocks, Header.awaited, Header.directive, State.readsField, State.readsConditional]
  | halted error =>
    constructor
    case forced => exact fun _ => forced_blocksOf items (h rfl)
    all_goals simp [ofParser, hblocks, State.readsField, State.readsConditional]

end Machine

/-! ### The invariant of the loop -/

namespace Driver

/-- The loop has come as far as a parser, from which the tokens that are left lead to the same end. The turns that it has
taken and those that it can take yet are one for every token, and one more for a token that is read again. -/
structure Follows (format : String) (tokens : List Token) (p : Parser) (d : Driver) : Prop where
  machine_eq : d.machine = .ofParser p
  forced : p.Forced
  run_eq : p.run format d.left = Parser.initial.run format tokens
  length_le : d.verdicts.length + d.left.length + p.breaks ≤ tokens.length + 1
  count_le : d.verdicts.count .again + p.breaks ≤ 1

theorem turn_ofParser (format : String) (p : Parser) (token : Token) (rest : List Token)
    (verdicts : List Machine.Verdict) :
    turn format ⟨.ofParser p, token :: rest, verdicts⟩ =
      ⟨.ofParser (p.step format token).parser, (p.step format token).verdict.left token rest,
        (p.step format token).verdict :: verdicts⟩ := by
  simp only [turn, Machine.step_ofParser]

namespace Follows

variable {format : String} {tokens rest : List Token} {p next : Parser} {token : Token}
  {verdicts : List Machine.Verdict}

theorem advance (h : Follows format tokens p ⟨.ofParser p, token :: rest, verdicts⟩)
    (hstep : p.step format token = .advance next) (herror : next.error? = p.error?)
    (hframes : p.error?.isSome → next.frames = p.frames) :
    Follows format tokens next ⟨.ofParser next, rest, .advance :: verdicts⟩ where
  machine_eq := rfl
  forced := by
    intro hsome
    rw [herror] at hsome
    rw [hframes hsome]
    exact h.forced hsome
  run_eq := (Parser.run_of_advance hstep rest).symm.trans h.run_eq
  length_le := by
    have hlength := h.length_le
    simp only [List.length_cons, Parser.breaks_congr herror] at hlength ⊢
    omega
  count_le := by
    rw [Parser.breaks_congr herror, List.count_cons_of_ne (by decide)]
    exact h.count_le

/-- The token is left, but from now on nothing can break off. -/
theorem again (h : Follows format tokens p ⟨.ofParser p, token :: rest, verdicts⟩) {problem : Problem} {span : Span}
    (hstep : p.step format token = .again (p.fail format problem span)) (hnone : p.error? = none) :
    Follows format tokens (p.fail format problem span)
      ⟨.ofParser (p.fail format problem span), token :: rest, .again :: verdicts⟩ where
  machine_eq := rfl
  forced := Parser.forced_fail format p problem span
  run_eq := (Parser.run_of_again hstep rfl rest).symm.trans h.run_eq
  length_le := by
    have hlength := h.length_le
    simp only [List.length_cons, Parser.breaks_of_no_problem hnone, Parser.breaks_fail] at hlength ⊢
    omega
  count_le := by
    have hcount := h.count_le
    rw [Parser.breaks_of_no_problem hnone] at hcount
    rw [Parser.breaks_fail, List.count_cons_self]
    exact hcount

theorem done (h : Follows format tokens p ⟨.ofParser p, token :: rest, verdicts⟩)
    (hstep : p.step format token = .done p) : Follows format tokens p ⟨.ofParser p, [], .done :: verdicts⟩ where
  machine_eq := rfl
  forced := h.forced
  run_eq := (Parser.run_of_done hstep rest).symm.trans h.run_eq
  length_le := by
    have hlength := h.length_le
    simp only [List.length_cons, List.length_nil] at hlength ⊢
    omega
  count_le := by
    rw [List.count_cons_of_ne (by decide)]
    exact h.count_le

theorem turn {d : Driver} (h : d.Follows format tokens p) : ∃ next, (d.turn format).Follows format tokens next := by
  obtain ⟨machine, _ | ⟨token, rest⟩, verdicts⟩ := d
  · exact ⟨p, h⟩
  obtain rfl : machine = .ofParser p := h.machine_eq
  rw [turn_ofParser]
  rcases p.step_cases format token with ⟨next, hstep, herror, hframes⟩ | ⟨problem, span, hstep, hnone⟩ | hstep
  · rw [hstep]
    exact ⟨next, h.advance hstep herror hframes⟩
  · rw [hstep]
    exact ⟨p.fail format problem span, h.again hstep hnone⟩
  · rw [hstep]
    exact ⟨p, h.done hstep⟩

end Follows

theorem exists_follows (format : String) (tokens : List Token) (n : Nat) :
    ∃ p, (after format tokens n).Follows format tokens p := by
  induction n with
  | zero =>
    have hbreaks : Parser.initial.breaks = 1 := Parser.breaks_of_no_problem rfl
    exact ⟨.initial, rfl, Parser.forced_initial, rfl, by simp [after, hbreaks], by simp [after, hbreaks]⟩
  | succ n ih =>
    obtain ⟨p, hp⟩ := ih
    exact hp.turn

/-- As long as the loop is not over, every turn reads a token. -/
theorem left_eq_nil_or_length_eq (format : String) (tokens : List Token) (n : Nat) :
    (after format tokens n).left = [] ∨ (after format tokens n).verdicts.length = n := by
  induction n with
  | zero => exact .inr rfl
  | succ n ih =>
    rw [after, turn]
    cases hleft : (after format tokens n).left with
    | nil => exact .inl hleft
    | cons token rest =>
      have hlength := ih.resolve_left (by simp [hleft])
      exact .inr (congrArg (· + 1) hlength)

theorem left_eq_nil (format : String) (tokens : List Token) : (after format tokens (tokens.length + 1)).left = [] := by
  obtain ⟨p, hp⟩ := exists_follows format tokens (tokens.length + 1)
  rcases left_eq_nil_or_length_eq format tokens (tokens.length + 1) with hnil | hlength
  · exact hnil
  · have hle := hp.length_le
    exact List.length_eq_zero_iff.1 (by omega)

end Driver

/-! ### Names and conditions -/

/-- The name of a field and the condition of a conditional are not empty. -/
def Node.Named : Node → Prop
  | field ref => ref.name ≠ ""
  | conditional guard _ => guard.condition ≠ ""
  | _ => True

theorem Node.named_simplify {node : Node} (h : node.Everywhere Named) : node.simplify.Everywhere Named :=
  everywhere_simplify (fun _ => trivial) (fun _ _ _ => trivial) (fun _ h => h) (fun _ _ h => h) (fun _ _ h => h) h

/-- A name or a condition that has been read is not empty. -/
def Header.Named : Header → Prop
  | name _ _ n => n ≠ ""
  | condition _ c => c ≠ ""
  | _ => True

def Frame.Named (frame : Frame) : Prop :=
  frame.condition ≠ "" ∧ ∀ node ∈ frame.before, node.Everywhere Node.Named

theorem Frame.Named.close {frame : Frame} (h : frame.Named) {items : List Node}
    (hitems : ∀ node ∈ items, node.Everywhere Node.Named) (stop : Nat) :
    ∀ node ∈ frame.close items stop, node.Everywhere Node.Named := by
  have hbody : (Node.list items.reverse).Everywhere Node.Named :=
    Node.everywhere_list.2 ⟨trivial, fun node hnode => hitems node (List.mem_reverse.1 hnode)⟩
  exact List.forall_mem_cons.2 ⟨⟨h.1, hbody⟩, h.2⟩

namespace Parser

/-- The names and conditions in all that was read are not empty. -/
structure Named (p : Parser) : Prop where
  header : ∀ header start, p.phase = .header header start → header.Named
  items : ∀ node ∈ p.items, node.Everywhere Node.Named
  frames : ∀ frame ∈ p.frames, frame.Named

theorem named_initial : Named initial := ⟨by simp [initial], by simp [initial], by simp [initial]⟩

namespace Named

variable {format : String} {p : Parser}

theorem push (h : p.Named) {node : Node} (hnode : node.Everywhere Node.Named) : (p.push node).Named :=
  ⟨h.header, List.forall_mem_cons.2 ⟨hnode, h.items⟩, h.frames⟩

theorem expect (h : p.Named) (header : Header) (hheader : header.Named) (start : Nat) :
    (p.expect header start).Named := by
  refine ⟨?_, h.items, h.frames⟩
  rintro _ _ ⟨⟩
  exact hheader

theorem abandonHeader (h : p.Named) : ∀ node ∈ p.abandonHeader.items, node.Everywhere Node.Named := by
  unfold Parser.abandonHeader
  split
  · exact List.forall_mem_cons.2 ⟨trivial, h.items⟩
  · exact h.items

theorem fail (h : p.Named) (problem : Problem) (span : Span) : (p.fail format problem span).Named where
  header := by simp [Parser.fail]
  items := List.forall_mem_cons.2 ⟨trivial, h.abandonHeader⟩
  frames := List.forall_mem_map.2 h.frames

theorem stepSequence {items : List Node} {frames : List Frame} (h : Named ⟨.sequence, items, frames⟩) (token : Token) :
    (Parser.stepSequence format ⟨.sequence, items, frames⟩ token).parser.Named := by
  obtain ⟨kind, span⟩ := token
  match kind with
  | .start => exact h
  | .text s => exact h.push trivial
  | .mark (.field scope) => exact h.expect (.field scope) trivial _
  | .mark (.guard scope) => exact h.expect (.guard scope) trivial _
  | .mark (.wrap _) => exact h.push trivial
  | .mark .openBrace => exact h.fail _ _
  | .mark .closeBrace =>
    cases frames with
    | nil => exact h.fail _ _
    | cons frame outer =>
      obtain ⟨hframe, houter⟩ := List.forall_mem_cons.1 h.frames
      exact ⟨by rintro _ _ ⟨⟩, hframe.close h.items _, houter⟩
  | .stop =>
    cases frames with
    | nil => exact h
    | cons frame outer => exact h.fail _ _

/-- Names and conditions are texts of tokens. -/
theorem stepHeader (h : p.Named) {header : Header} {start : Nat} (hphase : p.phase = .header header start)
    {token : Token} (htoken : token.kind ≠ .text "") :
    (Parser.stepHeader format p header start token).parser.Named := by
  have hheader := h.header header start hphase
  rw [Parser.stepHeader.eq_def]
  split
  · next scope verb _ => exact h.expect (.verb scope verb) trivial _
  · next scope _ => exact h.expect (.brace scope none) trivial _
  · next scope verb _ => exact h.expect (.brace scope (some verb)) trivial _
  · next scope verb name hkind =>
    refine h.expect (.name scope verb name) ?_ _
    rintro rfl
    exact htoken hkind
  · exact ⟨by rintro _ _ ⟨⟩, List.forall_mem_cons.2 ⟨hheader, h.items⟩, h.frames⟩
  · next scope condition hkind =>
    refine h.expect (.condition scope condition) ?_ _
    rintro rfl
    exact htoken hkind
  · exact ⟨by rintro _ _ ⟨⟩, List.forall_mem_nil _, List.forall_mem_cons.2 ⟨⟨hheader, h.items⟩, h.frames⟩⟩
  · exact h.fail _ _

theorem step (h : p.Named) {token : Token} (htoken : token.kind ≠ .text "") :
    (p.step format token).parser.Named := by
  obtain ⟨phase, items, frames⟩ := p
  cases phase with
  | sequence => exact h.stepSequence token
  | header header start => exact h.stepHeader rfl htoken
  | halted error =>
    obtain ⟨kind, span⟩ := token
    match kind with
    | .stop => exact h
    | .start | .text _ | .mark _ => exact h.push trivial

theorem settle (h : p.Named) {token : Token} (htoken : token.kind ≠ .text "") :
    (p.settle format token).parser.Named := by
  have hstep : (p.step format token).parser.Named := h.step htoken
  unfold Parser.settle
  split
  · next next hnext =>
    rw [hnext] at hstep
    exact hstep.step htoken
  · exact hstep

theorem run (h : p.Named) {tokens : List Token} (htokens : ∀ token ∈ tokens, token.kind ≠ .text "") :
    (p.run format tokens).Named := by
  induction tokens generalizing p with
  | nil => exact h
  | cons token rest ih =>
    obtain ⟨htoken, hrest⟩ := List.forall_mem_cons.1 htokens
    have hsettle : (p.settle format token).parser.Named := h.settle htoken
    rw [Parser.run]
    cases hread : p.settle format token with
    | advance next =>
      rw [hread] at hsettle
      exact ih hsettle hrest
    | again last | done last =>
      rw [hread] at hsettle
      exact hsettle

theorem nodes (h : p.Named) : ∀ node ∈ p.nodes format, node.Everywhere Node.Named := by
  have hclosed {frames : List Frame} (hframes : ∀ frame ∈ frames, frame.Named) {items : List Node}
      (hitems : ∀ node ∈ items, node.Everywhere Node.Named) :
      ∀ node ∈ frames.foldl (fun items frame => frame.close items format.utf8ByteSize) items,
        node.Everywhere Node.Named := by
    induction frames generalizing items with
    | nil => exact hitems
    | cons frame outer ih =>
      obtain ⟨hframe, houter⟩ := List.forall_mem_cons.1 hframes
      exact ih houter (hframe.close hitems _)
  intro node hnode
  rw [Parser.nodes, frames_abandonHeader] at hnode
  exact hclosed h.frames h.abandonHeader node (List.mem_reverse.1 hnode)

end Named

end Parser

theorem Token.kind_ne_of_mem_scan {format : String} {token : Token} (h : token ∈ scan format) :
    token.kind ≠ .text "" := by
  obtain ⟨inner, hkinds, hscan⟩ := scan_eq format
  rw [hscan, List.mem_cons, List.mem_append, List.mem_singleton] at h
  rcases h with rfl | h | rfl
  · simp
  · rcases mem_kinds (hkinds ▸ List.mem_map_of_mem h) with ⟨s, hs, hne⟩ | ⟨m, hm⟩
    · simpa [hs] using hne
    · simp [hm]
  · simp

/-- Where no token is an empty text, names and conditions are not empty. -/
theorem ParsedTemplate.named_ofTokens {tokens : List Token} (h : ∀ token ∈ tokens, token.kind ≠ .text "")
    (format : String) : (ofTokens format tokens).root.Everywhere Node.Named :=
  Node.named_simplify (Node.everywhere_list.2 ⟨trivial, (Parser.named_initial.run h).nodes⟩)

/-! ### The whole loop -/

namespace Driver

/-- Whatever the tokens are, the loop is over after one turn more than there are tokens at the latest, and it reads a
token again once at most. At every turn the fields of the machine fit together. Nothing is fallen back on, neither on the
way nor in the end, when the tree is the one of the parser; and no name and no condition in the tree of a format string's
tokens is empty. -/
theorem stays_consistent (format : String) (tokens : List Token) :
    (∀ n, (after format tokens n).verdicts.length ≤ tokens.length + 1 ∧
        (after format tokens n).verdicts.count .again ≤ 1 ∧
        (after format tokens n).machine.Consistent ∧ (after format tokens n).machine.fallbacks = []) ∧
      (after format tokens (tokens.length + 1)).left = [] ∧
      (∃ last, (Machine.finish format).run (after format tokens (tokens.length + 1)).machine =
          (ParsedTemplate.ofTokens format tokens, last) ∧ last.fallbacks = []) ∧
      ∀ source, (ParsedTemplate.ofTokens format (Token.scan source)).root.Everywhere Node.Named := by
  have hover := left_eq_nil format tokens
  refine ⟨fun n => ?_, hover, ?_, fun source => ?_⟩
  · obtain ⟨p, hp⟩ := exists_follows format tokens n
    have hlength := hp.length_le
    have hcount := hp.count_le
    rw [hp.machine_eq]
    exact ⟨by omega, by omega, Machine.consistent_ofParser hp.forced, Machine.fallbacks_ofParser p⟩
  · obtain ⟨p, hp⟩ := exists_follows format tokens (tokens.length + 1)
    have hend : p = Parser.initial.run format tokens := by
      have hrun := hp.run_eq
      rwa [hover] at hrun
    rw [hp.machine_eq, hend]
    exact Machine.finish_ofParser format _
  · exact ParsedTemplate.named_ofTokens (fun _ => Token.kind_ne_of_mem_scan) format

/-- The end of the format string cannot follow the brace, and is read again: five turns for four tokens. -/
example : (after "%\x7b" (Token.scan "%\x7b") 5).verdicts = [.done, .again, .advance, .advance, .advance] := by decide

end Driver

end Mishap
