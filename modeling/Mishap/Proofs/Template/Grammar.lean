import Mishap.Template.Parser

/-!
The grammar of format strings over their tokens:

    sequence    = (text | wrap | field | conditional)*
    field       = sigil [text] '{' text '}'
    conditional = sigil '!' text '{' sequence '}'
    input       = start sequence stop

and the tokens that can begin an input. What such tokens leave open is a place in the grammar; the place says which
tokens can come next, and every place can be completed to an input.
-/

namespace Mishap.Grammar

/-- The tokens of a sequence, and the nodes that they stand for. -/
inductive Sequence : List Token → List Node → Prop
  | nil : Sequence [] []
  | text {s span rest nodes} (tail : Sequence rest nodes) :
    Sequence (⟨.text s, span⟩ :: rest) (.literal s :: nodes)
  | wrap {scope span rest nodes} (tail : Sequence rest nodes) :
    Sequence (⟨.mark (.wrap scope), span⟩ :: rest) (.wrap scope span :: nodes)
  | field {scope name a b c d rest nodes} (tail : Sequence rest nodes) :
    Sequence
      (⟨.mark (.field scope), a⟩ :: ⟨.mark .openBrace, b⟩ :: ⟨.text name, c⟩ :: ⟨.mark .closeBrace, d⟩ :: rest)
      (.field ⟨scope, none, name, ⟨a.start, d.stop⟩⟩ :: nodes)
  | verbField {scope verb name a b c d e rest nodes} (tail : Sequence rest nodes) :
    Sequence
      (⟨.mark (.field scope), a⟩ :: ⟨.text verb, b⟩ :: ⟨.mark .openBrace, c⟩ :: ⟨.text name, d⟩ ::
        ⟨.mark .closeBrace, e⟩ :: rest)
      (.field ⟨scope, some verb, name, ⟨a.start, e.stop⟩⟩ :: nodes)
  | conditional {scope condition a b c d inner items rest nodes} (body : Sequence inner items)
      (tail : Sequence rest nodes) :
    Sequence
      (⟨.mark (.guard scope), a⟩ :: ⟨.text condition, b⟩ :: ⟨.mark .openBrace, c⟩ ::
        (inner ++ ⟨.mark .closeBrace, d⟩ :: rest))
      (.conditional ⟨scope, condition, false, ⟨a.start, d.stop⟩⟩ (.list items) :: nodes)

/-- The tokens of a whole format string. -/
def Input (tokens : List Token) : Prop :=
  ∃ a b inner nodes, tokens = ⟨.start, a⟩ :: (inner ++ [⟨.stop, b⟩]) ∧ Sequence inner nodes

/-- The tokens are the first ones of an input. -/
def Viable (tokens : List Token) : Prop := ∃ rest, Input (tokens ++ rest)

theorem Sequence.append {tokens rest : List Token} {nodes items : List Node} (h : Sequence tokens nodes)
    (hrest : Sequence rest items) : Sequence (tokens ++ rest) (nodes ++ items) := by
  induction h with
  | nil => exact hrest
  | text _ ih => exact .text ih
  | wrap _ ih => exact .wrap ih
  | field _ ih => exact .field ih
  | verbField _ ih => exact .verbField ih
  | conditional body _ _ ih => simpa using Sequence.conditional body ih

/-- The start and the end of an input do not occur inside it. -/
theorem Sequence.not_frame {tokens : List Token} {nodes : List Node} (h : Sequence tokens nodes) :
    ∀ t ∈ tokens, t.kind ≠ .start ∧ t.kind ≠ .stop := by
  induction h with
  | conditional _ _ ihbody ih =>
    intro t ht
    simp only [List.mem_cons, List.mem_append] at ht
    rcases ht with rfl | rfl | rfl | ht | rfl | ht
    · simp
    · simp
    · simp
    · exact ihbody t ht
    · simp
    · exact ih t ht
  | _ => simp_all

theorem Viable.of_append {tokens rest : List Token} (h : Viable (tokens ++ rest)) : Viable tokens := by
  obtain ⟨more, hmore⟩ := h
  exact ⟨rest ++ more, by rwa [← List.append_assoc]⟩

/-! ### Places -/

/-- A conditional that has not been closed, and the nodes before it in the block around it. -/
structure Opening where
  scope : Scope
  condition : String
  start : Nat
  before : List Node

/-- The tokens of a sequence that breaks off between directives, inside of conditionals, the innermost first, and the
nodes of its last block. -/
inductive Unfinished : List Token → List Opening → List Node → Prop
  | outside {tokens nodes} (h : Sequence tokens nodes) : Unfinished tokens [] nodes
  | inside {tokens opens before scope condition a b c inner nodes} (outer : Unfinished tokens opens before)
      (body : Sequence inner nodes) :
    Unfinished
      (tokens ++ ⟨.mark (.guard scope), a⟩ :: ⟨.text condition, b⟩ :: ⟨.mark .openBrace, c⟩ :: inner)
      (⟨scope, condition, a.start, before⟩ :: opens) nodes

/-- The tokens of a directive that breaks off in its header, with what was read of the header and where it began; or
none. -/
inductive Pending : List Token → Option (Header × Nat) → Prop
  | nothing : Pending [] none
  | field {scope a} : Pending [⟨.mark (.field scope), a⟩] (some (.field scope, a.start))
  | verb {scope verb a b} :
    Pending [⟨.mark (.field scope), a⟩, ⟨.text verb, b⟩] (some (.verb scope verb, a.start))
  | brace {scope a b} :
    Pending [⟨.mark (.field scope), a⟩, ⟨.mark .openBrace, b⟩] (some (.brace scope none, a.start))
  | verbBrace {scope verb a b c} :
    Pending [⟨.mark (.field scope), a⟩, ⟨.text verb, b⟩, ⟨.mark .openBrace, c⟩]
      (some (.brace scope (some verb), a.start))
  | name {scope name a b c} :
    Pending [⟨.mark (.field scope), a⟩, ⟨.mark .openBrace, b⟩, ⟨.text name, c⟩]
      (some (.name scope none name, a.start))
  | verbName {scope verb name a b c d} :
    Pending [⟨.mark (.field scope), a⟩, ⟨.text verb, b⟩, ⟨.mark .openBrace, c⟩, ⟨.text name, d⟩]
      (some (.name scope (some verb) name, a.start))
  | guard {scope a} : Pending [⟨.mark (.guard scope), a⟩] (some (.guard scope, a.start))
  | condition {scope condition a b} :
    Pending [⟨.mark (.guard scope), a⟩, ⟨.text condition, b⟩] (some (.condition scope condition, a.start))

/-- What the first tokens of an input leave open: conditionals, the nodes of the innermost block, and a header. -/
structure Place where
  opens : List Opening
  nodes : List Node
  pending : Option (Header × Nat)

/-- The tokens behind the start lead to the place. -/
def Reaches (tokens : List Token) (place : Place) : Prop :=
  ∃ items header, tokens = items ++ header ∧ Unfinished items place.opens place.nodes ∧ Pending header place.pending

/-- The kinds of tokens that can come next inside a header. -/
def continues : Header → Token.Kind → Bool
  | .field _, .text _ | .field _, .mark .openBrace => true
  | .verb _ _, .mark .openBrace => true
  | .brace _ _, .text _ => true
  | .name _ _ _, .mark .closeBrace => true
  | .guard _, .text _ => true
  | .condition _ _, .mark .openBrace => true
  | _, _ => false

/-- The kinds of tokens that can come next. -/
def Place.admits (place : Place) (kind : Token.Kind) : Bool :=
  match place.pending with
  | some (header, _) => continues header kind
  | none =>
    match kind with
    | .start | .mark .openBrace => false
    | .stop => place.opens.isEmpty
    | .mark .closeBrace => !place.opens.isEmpty
    | _ => true

/-- The problem of a token that cannot come next. -/
def Place.problem (place : Place) (found : Token.Kind) : Problem :=
  match place.pending, found with
  | some (header, _), found => header.problem found
  | none, .mark .closeBrace => .unmatchedCloseBrace
  | none, .stop => .missingCloseBrace
  | none, _ => .unexpectedOpenBrace

/-- Where the problem is: at the token, except that a conditional left open is marked from its start to the end. -/
def Place.span (place : Place) (token : Token) : Span :=
  match place.pending, token.kind, place.opens with
  | none, .stop, o :: _ => ⟨o.start, token.span.stop⟩
  | _, _, _ => token.span

/-- The kinds of tokens that a problem says should have come instead, inside of conditionals or outside. -/
def expected (opened : Bool) : Problem → Token.Kind → Bool
  | .expectedVerb _ _, .text _ | .expectedVerb _ _, .mark .openBrace => true
  | .expectedCondition _ _, .text _ => true
  | .expectedOpenBrace _ _, .mark .openBrace => true
  | .expectedFieldName _, .text _ => true
  | .expectedCloseBrace _, .mark .closeBrace => true
  | .unexpectedOpenBrace, kind | .unmatchedCloseBrace, kind | .missingCloseBrace, kind =>
    match kind with
    | .start | .mark .openBrace => false
    | .stop => !opened
    | .mark .closeBrace => opened
    | _ => true
  | _, _ => false

theorem Place.admits_eq_expected (place : Place) (found kind : Token.Kind) :
    place.admits kind = expected (!place.opens.isEmpty) (place.problem found) kind := by
  obtain ⟨opens, nodes, pending⟩ := place
  cases pending with
  | none =>
    rcases found with _ | _ | _ | _ | _ | _ | _ | _ <;> rcases kind with _ | _ | _ | _ | _ | _ | _ | _ <;>
      simp [Place.admits, Place.problem, expected]
  | some pending =>
    obtain ⟨header, start⟩ := pending
    cases header <;> rcases kind with _ | _ | _ | _ | _ | _ | _ | _ <;> rfl

/-! ### Moving on from a place -/

theorem Unfinished.append {tokens rest : List Token} {opens : List Opening} {nodes items : List Node}
    (h : Unfinished tokens opens nodes) (hrest : Sequence rest items) :
    Unfinished (tokens ++ rest) opens (nodes ++ items) := by
  cases h with
  | outside h => exact .outside (h.append hrest)
  | inside outer body => simpa using Unfinished.inside outer (body.append hrest)

/-- The innermost conditional becomes a node of the block around it. -/
theorem Unfinished.close {tokens : List Token} {o : Opening} {opens : List Opening} {nodes : List Node}
    (h : Unfinished tokens (o :: opens) nodes) (span : Span) :
    Unfinished (tokens ++ [⟨.mark .closeBrace, span⟩]) opens
      (o.before ++ [.conditional ⟨o.scope, o.condition, false, ⟨o.start, span.stop⟩⟩ (.list nodes)]) := by
  cases h with
  | inside outer body => simpa using outer.append (Sequence.conditional body .nil)

theorem Reaches.of_unfinished {tokens : List Token} {opens : List Opening} {nodes : List Node}
    (h : Unfinished tokens opens nodes) : Reaches tokens ⟨opens, nodes, none⟩ :=
  ⟨tokens, [], by simp, h, .nothing⟩

/-- A token between directives. -/
theorem Unfinished.next {tokens : List Token} {opens : List Opening} {nodes : List Node}
    (h : Unfinished tokens opens nodes) {t : Token} (hadmits : Place.admits ⟨opens, nodes, none⟩ t.kind)
    (hstop : t.kind ≠ .stop) : ∃ next, Reaches (tokens ++ [t]) next := by
  obtain ⟨kind, span⟩ := t
  match kind with
  | .start => simp [Place.admits] at hadmits
  | .stop => exact absurd rfl hstop
  | .text s => exact ⟨_, .of_unfinished (h.append (.text .nil))⟩
  | .mark (.wrap scope) => exact ⟨_, .of_unfinished (h.append (.wrap .nil))⟩
  | .mark (.field scope) => exact ⟨⟨opens, nodes, _⟩, tokens, _, rfl, h, .field⟩
  | .mark (.guard scope) => exact ⟨⟨opens, nodes, _⟩, tokens, _, rfl, h, .guard⟩
  | .mark .openBrace => simp [Place.admits] at hadmits
  | .mark .closeBrace =>
    cases opens with
    | nil => simp [Place.admits] at hadmits
    | cons o outer => exact ⟨_, .of_unfinished (h.close span)⟩

/-- A token inside a header. -/
theorem Pending.next {tokens header : List Token} {opens : List Opening} {nodes : List Node}
    (h : Unfinished tokens opens nodes) {pending : Header × Nat} (hheader : Pending header (some pending)) {t : Token}
    (hadmits : continues pending.1 t.kind) : ∃ next, Reaches (tokens ++ (header ++ [t])) next := by
  obtain ⟨kind, span⟩ := t
  have inside {longer : List Token} {pending : Option (Header × Nat)} (hlonger : Pending longer pending) :
      ∃ next, Reaches (tokens ++ longer) next := ⟨⟨opens, nodes, pending⟩, tokens, longer, rfl, h, hlonger⟩
  have behind {more : List Token} {items : List Node} (hmore : Sequence more items) :
      ∃ next, Reaches (tokens ++ more) next := ⟨_, .of_unfinished (h.append hmore)⟩
  cases hheader with
  | field =>
    match kind with
    | .text _ => exact inside .verb
    | .mark .openBrace => exact inside .brace
  | verb =>
    match kind with
    | .mark .openBrace => exact inside .verbBrace
  | brace =>
    match kind with
    | .text _ => exact inside .name
  | verbBrace =>
    match kind with
    | .text _ => exact inside .verbName
  | name =>
    match kind with
    | .mark .closeBrace => exact behind (.field .nil)
  | verbName =>
    match kind with
    | .mark .closeBrace => exact behind (.verbField .nil)
  | guard =>
    match kind with
    | .text _ => exact inside .condition
  | condition =>
    match kind with
    | .mark .openBrace => exact ⟨_, .of_unfinished (h.inside .nil)⟩

theorem Reaches.next {tokens : List Token} {place : Place} (h : Reaches tokens place) {t : Token}
    (hadmits : place.admits t.kind) (hstop : t.kind ≠ .stop) : ∃ next, Reaches (tokens ++ [t]) next := by
  obtain ⟨items, header, rfl, hitems, hheader⟩ := h
  obtain ⟨opens, nodes, pending⟩ := place
  cases pending with
  | none =>
    cases hheader with
    | nothing => simpa using hitems.next hadmits hstop
  | some pending =>
    rw [List.append_assoc]
    exact hheader.next hitems hadmits

/-! ### Completing a place -/

theorem Unfinished.viable {tokens : List Token} {opens : List Opening} {nodes : List Node}
    (h : Unfinished tokens opens nodes) (first : Span) : Viable (⟨.start, first⟩ :: tokens) := by
  induction opens generalizing tokens nodes with
  | nil =>
    cases h with
    | outside h => exact ⟨[⟨.stop, default⟩], first, default, tokens, nodes, by simp, h⟩
  | cons o outer ih => exact Viable.of_append (ih (h.close default))

/-- A header can be completed to a directive. -/
theorem Pending.exists_sequence {header : List Token} {pending : Option (Header × Nat)} (h : Pending header pending) :
    ∃ rest nodes, Sequence (header ++ rest) nodes := by
  let text : Token := ⟨.text "", default⟩
  let openBrace : Token := ⟨.mark .openBrace, default⟩
  let closeBrace : Token := ⟨.mark .closeBrace, default⟩
  cases h with
  | nothing => exact ⟨[], _, .nil⟩
  | field => exact ⟨[openBrace, text, closeBrace], _, .field .nil⟩
  | verb => exact ⟨[openBrace, text, closeBrace], _, .verbField .nil⟩
  | brace => exact ⟨[text, closeBrace], _, .field .nil⟩
  | verbBrace => exact ⟨[text, closeBrace], _, .verbField .nil⟩
  | name => exact ⟨[closeBrace], _, .field .nil⟩
  | verbName => exact ⟨[closeBrace], _, .verbField .nil⟩
  | guard => exact ⟨[text, openBrace, closeBrace], _, .conditional .nil .nil⟩
  | condition => exact ⟨[openBrace, closeBrace], _, .conditional .nil .nil⟩

theorem Reaches.viable {tokens : List Token} {place : Place} (h : Reaches tokens place) (first : Span) :
    Viable (⟨.start, first⟩ :: tokens) := by
  obtain ⟨items, header, rfl, hitems, hheader⟩ := h
  obtain ⟨rest, nodes, hrest⟩ := hheader.exists_sequence
  have hviable := (hitems.append hrest).viable first
  rw [← List.append_assoc, ← List.cons_append] at hviable
  exact hviable.of_append

end Mishap.Grammar
