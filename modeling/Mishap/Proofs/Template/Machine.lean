import Mishap.Template.Parser

/-!
Reading tokens by a machine whose state lies apart in fields that are changed one by one: what it waits for, the blocks
that are open, the directive that is being read, and the first problem. Where two fields do not fit together it falls
back on something and goes on, and it keeps what it fell back on. Main statement: a state of the parser, taken apart, is
a state of the machine, and both read a token in the same way, without falling back on anything.
-/

namespace Mishap

namespace Machine

/-- What the machine waits for. -/
inductive State
  | sequence
  | expectVerb
  | expectCondition
  | expectName
  | expectOpenBraceAfterCondition
  | expectOpenBraceAfterVerb
  | expectCloseBraceAfterName
  | errorSink
  deriving DecidableEq, Repr

/-- The head of an open conditional. -/
structure Head where
  scope : Scope
  condition : String
  start : Nat
  forced : Bool

/-- The nodes of a block so far, the latest first, and the head of the conditional whose body it is. -/
structure Block where
  items : List Node
  header : Option Head

def Block.force (block : Block) : Block := { block with header := block.header.map ({ · with forced := true }) }

/-- The parts of a directive that have been read. -/
inductive Directive
  | field (scope : Scope) (verb name : Option String)
  | conditional (scope : Scope) (condition : Option String)

def Directive.scope : Directive → Scope
  | field scope _ _ => scope
  | conditional scope _ => scope

/-- A directive that is being read, where it began, and its tokens so far as text. -/
structure Pending where
  directive : Directive
  start : Nat
  raw : String

/-- What is done where the fields do not fit together. A node, a spelling, a part of a directive or a whole one that has
no place to go is dropped; a text that is missing is empty; the scope of no directive is the own one; the bottom block is
not closed; a block without a head becomes a list; and without any block the root is an empty literal. -/
inductive Fallback
  | droppedNode
  | droppedSpelling
  | droppedPart
  | droppedField
  | droppedConditional
  | emptyName
  | emptyCondition
  | ownScope
  | bottomBlock
  | headlessBlock
  | missingRoot
  deriving DecidableEq, Repr

/-- What becomes of the current token: reading goes on behind it, it is read again, or reading is over. -/
inductive Verdict
  | advance
  | again
  | done
  deriving DecidableEq, Repr

end Machine

/-- The fields of the machine. The blocks are those that are open, the innermost first; the last fallback comes first. -/
structure Machine where
  state : Machine.State
  blocks : List Machine.Block
  pending : Option Machine.Pending
  error : Option TemplateError
  fallbacks : List Machine.Fallback

namespace Machine

abbrev Act := StateM Machine

def initial : Machine := ⟨.sequence, [⟨[], none⟩], none, none, []⟩

/-! ### Changing the fields -/

def fallBack (fallback : Fallback) : Act Unit := modify fun m => { m with fallbacks := fallback :: m.fallbacks }

def setState (state : State) : Act Unit := modify ({ · with state })

/-- Puts a node into the innermost block. -/
def push (node : Node) : Act Unit := do
  match (← get).blocks with
  | block :: outer => modify ({ · with blocks := { block with items := node :: block.items } :: outer })
  | [] => fallBack .droppedNode

/-- Begins a directive at a token. -/
def begin (directive : Directive) (token : Token) (next : State) : Act Verdict := do
  modify ({ · with pending := some ⟨directive, token.span.start, token.kind.spelling⟩ })
  setState next
  return .advance

/-- Adds a token to the text of the directive that is being read. -/
def consume (token : Token) (next : State) : Act Verdict := do
  match (← get).pending with
  | some pending => modify ({ · with pending := some { pending with raw := pending.raw ++ token.kind.spelling } })
  | none => fallBack .droppedSpelling
  setState next
  return .advance

def pendingScope : Act Scope := do
  match (← get).pending with
  | some pending => return pending.directive.scope
  | none =>
    fallBack .ownScope
    return .own

/-- Sets the verb of the field that is being read, or its name, or both. -/
def setPart (verb name : Option String) : Act Unit := do
  match (← get).pending with
  | some ⟨.field scope oldVerb oldName, start, raw⟩ =>
    modify ({ · with pending := some ⟨.field scope (verb <|> oldVerb) (name <|> oldName), start, raw⟩ })
  | _ => fallBack .droppedPart

/-- Sets the condition of the conditional that is being read. -/
def setCondition (condition : String) : Act Unit := do
  match (← get).pending with
  | some ⟨.conditional scope _, start, raw⟩ =>
    modify ({ · with pending := some ⟨.conditional scope (some condition), start, raw⟩ })
  | _ => fallBack .droppedPart

/-- Gives the directive that is being read, which is not pending any more. -/
def takePending : Act (Option Pending) := modifyGet fun m => (m.pending, { m with pending := none })

def textOr (fallback : Fallback) (text : Option String) : Act String := do
  match text with
  | some text => return text
  | none =>
    fallBack fallback
    return ""

/-- The field that is being read becomes a node. -/
def closeField (stop : Nat) : Act Unit := do
  match ← takePending with
  | some ⟨.field scope verb name, start, _⟩ =>
    push (.field ⟨scope, verb, ← textOr .emptyName name, ⟨start, stop⟩⟩)
  | _ => fallBack .droppedField
  setState .sequence

/-- Opens a block for the body of the conditional that is being read. -/
def openBlock : Act Unit := do
  match ← takePending with
  | some ⟨.conditional scope condition, start, _⟩ =>
    let condition ← textOr .emptyCondition condition
    modify fun m => { m with blocks := ⟨[], some ⟨scope, condition, start, false⟩⟩ :: m.blocks }
  | _ => fallBack .droppedConditional
  setState .sequence

/-- The innermost block becomes a node of the one around it. -/
def closeBlock (stop : Nat) : Act Unit := do
  match (← get).blocks with
  | block :: around :: outer =>
    modify ({ · with blocks := around :: outer })
    match block.header with
    | some head =>
      push (.conditional ⟨head.scope, head.condition, head.forced, ⟨head.start, stop⟩⟩ (.list block.items.reverse))
    | none =>
      fallBack .headlessBlock
      push (.list block.items.reverse)
  | _ => fallBack .bottomBlock

/-- The directive that is being read becomes text. -/
def abandon : Act Unit := do
  match ← takePending with
  | some pending => push (.literal pending.raw)
  | none => return ()

/-- Puts a problem into the tree, and keeps it if it is the first; forces all open conditionals. -/
def fail (format : String) (problem : Problem) (span : Span) : Act Verdict := do
  abandon
  push (.literal problem.diagnostic)
  modify fun m => { m with
    error := m.error <|> some ⟨problem, format, span⟩
    blocks := m.blocks.map Block.force }
  setState .errorSink
  return .again

/-! ### Reading a token -/

/-- Reads a token between directives. -/
def sequence (format : String) (token : Token) : Act Verdict := do
  match token.kind with
  | .start => return .advance
  | .text s =>
    push (.literal s)
    return .advance
  | .mark (.field scope) => begin (.field scope none none) token .expectVerb
  | .mark (.guard scope) => begin (.conditional scope none) token .expectCondition
  | .mark (.wrap scope) =>
    push (.wrap scope token.span)
    return .advance
  | .mark .openBrace => fail format .unexpectedOpenBrace token.span
  | .mark .closeBrace =>
    if 1 < (← get).blocks.length then
      closeBlock token.span.stop
      return .advance
    else fail format .unmatchedCloseBrace token.span
  | .stop =>
    match (← get).blocks.findSome? Block.header with
    | some head => fail format .missingCloseBrace ⟨head.start, token.span.stop⟩
    | none => return .done

def stepAt (format : String) (token : Token) : State → Act Verdict
  | .sequence => sequence format token
  | .errorSink => do
    match token.kind with
    | .stop => return .done
    | found =>
      push (.literal found.spelling)
      return .advance
  | .expectVerb => do
    match token.kind with
    | .text verb =>
      setPart (some verb) none
      consume token .expectOpenBraceAfterVerb
    | .mark .openBrace => consume token .expectName
    | found => fail format (.expectedVerb (← pendingScope) found) token.span
  | .expectOpenBraceAfterVerb =>
    match token.kind with
    | .mark .openBrace => consume token .expectName
    | found => fail format (.expectedOpenBrace .verb found) token.span
  | .expectName => do
    match token.kind with
    | .text name =>
      setPart none (some name)
      consume token .expectCloseBraceAfterName
    | found => fail format (.expectedFieldName found) token.span
  | .expectCloseBraceAfterName => do
    match token.kind with
    | .mark .closeBrace =>
      closeField token.span.stop
      return .advance
    | found => fail format (.expectedCloseBrace found) token.span
  | .expectCondition => do
    match token.kind with
    | .text condition =>
      setCondition condition
      consume token .expectOpenBraceAfterCondition
    | found => fail format (.expectedCondition (← pendingScope) found) token.span
  | .expectOpenBraceAfterCondition => do
    match token.kind with
    | .mark .openBrace =>
      openBlock
      return .advance
    | found => fail format (.expectedOpenBrace .condition found) token.span

/-- Reads a token. -/
def step (format : String) (token : Token) : Act Verdict := do stepAt format token (← get).state

/-! ### The end of reading -/

theorem length_closeBlock {m : Machine} (h : 1 < m.blocks.length) (stop : Nat) :
    ((closeBlock stop).run m).2.blocks.length + 1 = m.blocks.length := by
  obtain ⟨state, _ | ⟨⟨items, header⟩, _ | ⟨around, outer⟩⟩, pending, error, fallbacks⟩ := m
  · simp at h
  · simp at h
  · cases header <;> rfl

/-- Closes blocks as long as there is more than one. -/
def closeAll (stop : Nat) (m : Machine) : Machine :=
  if 1 < m.blocks.length then closeAll stop ((closeBlock stop).run m).2 else m
termination_by m.blocks.length
decreasing_by
  have := length_closeBlock ‹_› stop
  omega

/-- The nodes of the innermost block are the root of the tree. -/
def takeRoot : Act ParsedTemplate := do
  match (← get).blocks with
  | block :: outer =>
    modify ({ · with blocks := outer })
    return ⟨(Node.list block.items.reverse).simplify, (← get).error⟩
  | [] =>
    fallBack .missingRoot
    return ⟨(Node.literal "").simplify, (← get).error⟩

/-- The tree of all that was read, and the first problem. Blocks that are open end where the format string ends. -/
def finish (format : String) : Act ParsedTemplate := do
  abandon
  modify (closeAll format.utf8ByteSize)
  takeRoot

end Machine

/-! ### Taking the parser apart -/

namespace Header

/-- What the machine waits for behind the header. -/
def awaited : Header → Machine.State
  | field _ => .expectVerb
  | verb _ _ => .expectOpenBraceAfterVerb
  | brace _ _ => .expectName
  | name _ _ _ => .expectCloseBraceAfterName
  | guard _ => .expectCondition
  | condition _ _ => .expectOpenBraceAfterCondition

/-- The parts of a directive that are in the header. -/
def directive : Header → Machine.Directive
  | field scope => .field scope none none
  | verb scope v => .field scope (some v) none
  | brace scope v? => .field scope v? none
  | name scope v? n => .field scope v? (some n)
  | guard scope => .conditional scope none
  | condition scope c => .conditional scope (some c)

end Header

def Frame.head (frame : Frame) : Machine.Head := ⟨frame.scope, frame.condition, frame.start, frame.forced⟩

namespace Step

def verdict : Step → Machine.Verdict
  | advance _ => .advance
  | again _ => .again
  | done _ => .done

def parser : Step → Parser
  | advance next => next
  | again next => next
  | done last => last

end Step

theorem Parser.frames_abandonHeader (p : Parser) : p.abandonHeader.frames = p.frames := by
  unfold abandonHeader
  split <;> rfl

namespace Machine

/-- The block of `items` and those around it. -/
def blocksOf (items : List Node) : List Frame → List Block
  | [] => [⟨items, none⟩]
  | frame :: outer => ⟨items, some frame.head⟩ :: blocksOf frame.before outer

/-- A state of the parser taken apart. -/
def ofParser (p : Parser) : Machine :=
  let blocks := blocksOf p.items p.frames
  match p.phase with
  | .sequence => ⟨.sequence, blocks, none, none, []⟩
  | .header header start => ⟨header.awaited, blocks, some ⟨header.directive, start, header.spelling⟩, none, []⟩
  | .halted error => ⟨.errorSink, blocks, none, some error, []⟩

theorem fallbacks_ofParser (p : Parser) : (ofParser p).fallbacks = [] := by
  unfold ofParser
  split <;> rfl

theorem map_force_blocksOf (items : List Node) (frames : List Frame) :
    (blocksOf items frames).map Block.force = blocksOf items (frames.map Frame.force) := by
  induction frames generalizing items with
  | nil => rfl
  | cons frame outer ih =>
    rw [blocksOf, List.map_cons, ih]
    rfl

theorem fail_ofParser {p : Parser} (h : p.error? = none) (format : String) (problem : Problem) (span : Span) :
    (fail format problem span).run (ofParser p) = (.again, ofParser (p.fail format problem span)) := by
  obtain ⟨phase, items, frames⟩ := p
  cases phase with
  | halted error => simp [Parser.error?] at h
  | sequence | header =>
    simp only [Parser.fail, ofParser, ← map_force_blocksOf]
    cases frames <;> rfl

theorem sequence_ofParser (format : String) (items : List Node) (frames : List Frame) (token : Token) :
    (sequence format token).run (ofParser ⟨.sequence, items, frames⟩) =
      ((Parser.stepSequence format ⟨.sequence, items, frames⟩ token).verdict,
        ofParser (Parser.stepSequence format ⟨.sequence, items, frames⟩ token).parser) := by
  obtain ⟨kind, span⟩ := token
  have fails (frames : List Frame) := fail_ofParser (p := ⟨.sequence, items, frames⟩) rfl format
  match kind with
  | .start => rfl
  | .text s | .mark (.wrap scope) => cases frames <;> rfl
  | .mark (.field scope) | .mark (.guard scope) => cases scope <;> rfl
  | .mark .openBrace => exact fails frames _ _
  | .mark .closeBrace =>
    rcases frames with _ | ⟨frame, _ | ⟨around, outer⟩⟩
    · exact fails [] _ _
    · rfl
    · rfl
  | .stop =>
    cases frames with
    | nil => rfl
    | cons frame outer => exact fails (frame :: outer) _ _

theorem run_pendingScope {m : Machine} {pending : Pending} (h : m.pending = some pending) :
    pendingScope.run m = (pending.directive.scope, m) := by
  rw [pendingScope, StateT.run_bind, StateT.run_get, pure_bind, h]
  rfl

theorem header_ofParser (format : String) (header : Header) (start : Nat) (items : List Node) (frames : List Frame)
    (token : Token) :
    (stepAt format token header.awaited).run (ofParser ⟨.header header start, items, frames⟩) =
      ((Parser.stepHeader format ⟨.header header start, items, frames⟩ header start token).verdict,
        ofParser (Parser.stepHeader format ⟨.header header start, items, frames⟩ header start token).parser) := by
  obtain ⟨kind, span⟩ := token
  have fails (problem : Problem) :=
    fail_ofParser (p := ⟨.header header start, items, frames⟩) rfl format problem span
  -- two of the problems ask the machine for the scope of its directive
  have failsIn (problem : Scope → Problem) :
      (pendingScope >>= fun scope => fail format (problem scope) span).run
          (ofParser ⟨.header header start, items, frames⟩) =
        (.again, ofParser (Parser.fail format ⟨.header header start, items, frames⟩
          (problem header.directive.scope) span)) := by
    rw [StateT.run_bind, run_pendingScope rfl]
    exact fails _
  cases header with
  | field scope =>
    match kind with
    | .text verb => rfl
    | .mark .openBrace => cases scope <;> rfl
    | .start | .stop | .mark (.field _) | .mark (.guard _) | .mark (.wrap _) | .mark .closeBrace => exact failsIn _
  | verb scope v =>
    match kind with
    | .mark .openBrace => rfl
    | .start | .stop | .text _ | .mark (.field _) | .mark (.guard _) | .mark (.wrap _) | .mark .closeBrace =>
      exact fails _
  | brace scope v? =>
    match kind with
    | .text name => rfl
    | .start | .stop | .mark _ => exact fails _
  | name scope v? n =>
    match kind with
    | .mark .closeBrace => cases frames <;> rfl
    | .start | .stop | .text _ | .mark (.field _) | .mark (.guard _) | .mark (.wrap _) | .mark .openBrace =>
      exact fails _
  | guard scope =>
    match kind with
    | .text condition => rfl
    | .start | .stop | .mark _ => exact failsIn _
  | condition scope c =>
    match kind with
    | .mark .openBrace => rfl
    | .start | .stop | .text _ | .mark (.field _) | .mark (.guard _) | .mark (.wrap _) | .mark .closeBrace =>
      exact fails _

/-- The machine and the parser read a token in the same way. -/
theorem step_ofParser (format : String) (p : Parser) (token : Token) :
    (step format token).run (ofParser p) = ((p.step format token).verdict, ofParser (p.step format token).parser) := by
  obtain ⟨phase, items, frames⟩ := p
  cases phase with
  | sequence => exact sequence_ofParser format items frames token
  | header header start => exact header_ofParser format header start items frames token
  | halted error =>
    obtain ⟨kind, span⟩ := token
    match kind with
    | .stop => rfl
    | .start | .text _ | .mark _ => cases frames <;> rfl

/-! ### The end of reading, taken apart -/

theorem abandon_ofParser (p : Parser) :
    abandon.run (ofParser p) =
      ((), ⟨(ofParser p).state, blocksOf p.abandonHeader.items p.frames, none, p.error?, []⟩) := by
  obtain ⟨phase, items, frames⟩ := p
  cases phase <;> cases frames <;> rfl

theorem closeAll_blocksOf (state : State) (items : List Node) (frames : List Frame) (error : Option TemplateError)
    (stop : Nat) :
    closeAll stop ⟨state, blocksOf items frames, none, error, []⟩ =
      ⟨state, [⟨frames.foldl (fun items frame => frame.close items stop) items, none⟩], none, error, []⟩ := by
  induction frames generalizing items with
  | nil =>
    rw [closeAll, if_neg (by simp [blocksOf])]
    rfl
  | cons frame outer ih =>
    have hlength : 1 < (blocksOf items (frame :: outer)).length := by cases outer <;> simp [blocksOf]
    have hclose : ((closeBlock stop).run ⟨state, blocksOf items (frame :: outer), none, error, []⟩).2 =
        ⟨state, blocksOf (frame.close items stop) outer, none, error, []⟩ := by cases outer <;> rfl
    rw [closeAll, if_pos hlength, hclose]
    exact ih (frame.close items stop)

/-- The machine and the parser end with the same tree and the same problem. -/
theorem finish_ofParser (format : String) (p : Parser) :
    ∃ last, (finish format).run (ofParser p) = (⟨(Node.list (p.nodes format)).simplify, p.error?⟩, last) ∧
      last.fallbacks = [] := by
  refine ⟨⟨(ofParser p).state, [], none, p.error?, []⟩, ?_, rfl⟩
  calc (finish format).run (ofParser p)
    _ = takeRoot.run (closeAll format.utf8ByteSize (abandon.run (ofParser p)).2) := rfl
    _ = takeRoot.run ⟨(ofParser p).state, [⟨p.frames.foldl (fun items frame => frame.close items format.utf8ByteSize)
          p.abandonHeader.items, none⟩], none, p.error?, []⟩ := by rw [abandon_ofParser, closeAll_blocksOf]
    _ = _ := by
      rw [Parser.nodes, Parser.frames_abandonHeader]
      rfl

end Machine

end Mishap
