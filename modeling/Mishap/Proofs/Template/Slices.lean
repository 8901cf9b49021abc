import Mishap.Proofs.Template.Decomposition

/-!
Slices of a format string. What a token is read from goes on to be read as that token when the format string is cut off
behind it or before it, so that a slice from the start of a token to the end of another has the tokens between them.
Main statement: such a slice, alone, is read as the nodes that those tokens stand for, moved to its start.
-/

namespace Mishap

/-- The span with `f` applied to its ends. -/
def Span.map (f : Nat → Nat) (span : Span) : Span := ⟨f span.start, f span.stop⟩

/-- The span begins and ends between two characters of the format string. -/
structure Span.LiesIn (span : Span) (format : String) : Prop where
  start : String.Pos.Raw.IsValid format ⟨span.start⟩
  stop : String.Pos.Raw.IsValid format ⟨span.stop⟩
  start_le_stop : span.start ≤ span.stop
  stop_le : span.stop ≤ format.utf8ByteSize

/-- The slice of a format string at a span. -/
def Span.Covers (span : Span) (source format : String) : Prop :=
  ∃ before after : String, format = before ++ source ++ after ∧
    span = ⟨before.utf8ByteSize, before.utf8ByteSize + source.utf8ByteSize⟩

/-- The slice at the span, alone, is read without a problem, and as the node, but for where the slice begins. -/
def Span.ReadsAs (span : Span) (format : String) (node : Node) : Prop :=
  ∃ source, span.Covers source format ∧ (Template.ofFormat source).error? = none ∧
    (Template.ofFormat source).root.mapSpans (Span.map (· + span.start)) = node

/-- Of two places in a text the one with fewer bytes before it comes first. -/
theorem exists_append_of_utf8ByteSize_le {a b c d : String} (h : a ++ b = c ++ d)
    (hle : a.utf8ByteSize ≤ c.utf8ByteSize) : ∃ middle, c = a ++ middle ∧ b = middle ++ d := by
  have hlists : a.toList ++ b.toList = c.toList ++ d.toList := by simpa using congrArg String.toList h
  rcases List.append_eq_append_iff.1 hlists with ⟨middle, hc, hb⟩ | ⟨middle, ha, hd⟩
  · refine ⟨String.ofList middle, ?_, ?_⟩
    · rw [← String.toList_inj, hc, String.toList_append, String.toList_ofList]
    · rw [← String.toList_inj, hb, String.toList_append, String.toList_ofList]
  · have hsize := Token.size_append c.toList middle
    rw [← ha, Token.size_toList, Token.size_toList] at hsize
    obtain rfl : middle = [] := Token.eq_nil_of_size (by omega)
    rw [List.append_nil, String.toList_inj] at ha
    rw [List.nil_append, String.toList_inj] at hd
    exact ⟨"", by rw [String.append_empty, ha], by rw [String.empty_append, hd]⟩

theorem Span.Covers.liesIn {span : Span} {source format : String} (h : span.Covers source format) :
    span.LiesIn format := by
  obtain ⟨before, after, rfl, rfl⟩ := h
  have hstart : String.Pos.Raw.IsValid (before ++ source ++ after) ⟨before.utf8ByteSize⟩ :=
    String.Pos.Raw.isValid_iff_exists_append.2 ⟨before, source ++ after, String.append_assoc .., rfl⟩
  have hstop : String.Pos.Raw.IsValid (before ++ source ++ after) ⟨before.utf8ByteSize + source.utf8ByteSize⟩ :=
    String.Pos.Raw.isValid_iff_exists_append.2 ⟨before ++ source, after, rfl, String.Pos.Raw.ext (by simp)⟩
  exact ⟨hstart, hstop, Nat.le_add_right .., hstop.le_utf8ByteSize⟩

/-- There is a slice at every span that lies in a format string. -/
theorem Span.LiesIn.exists_covers {span : Span} {format : String} (h : span.LiesIn format) :
    ∃ source, span.Covers source format := by
  obtain ⟨before, rest, rfl, hbefore⟩ := String.Pos.Raw.isValid_iff_exists_append.1 h.start
  obtain ⟨front, after, hformat, hfront⟩ := String.Pos.Raw.isValid_iff_exists_append.1 h.stop
  have hle := h.start_le_stop
  obtain ⟨start, stop⟩ := span
  obtain rfl : start = before.utf8ByteSize := congrArg String.Pos.Raw.byteIdx hbefore
  obtain rfl : stop = front.utf8ByteSize := congrArg String.Pos.Raw.byteIdx hfront
  obtain ⟨source, rfl, rfl⟩ := exists_append_of_utf8ByteSize_le hformat hle
  refine ⟨source, before, after, hformat, ?_⟩
  rw [String.utf8ByteSize_append]

namespace Token

/-! ### What stands behind a token -/

theorem forall_head?_of_append {p : Char → Prop} {after behind : List Char} (h : ∀ c ∈ (after ++ behind).head?, p c) :
    ∀ c ∈ after.head?, p c := by
  cases after with
  | nil => simp
  | cons c after => exact h

theorem SpellsChar.of_append {c : Char} {source after behind : List Char} (h : SpellsChar c source (after ++ behind)) :
    SpellsChar c source after := by
  cases h with
  | escaped hc => exact .escaped hc
  | doubled => exact .doubled
  | backslash hafter => exact .backslash (forall_head?_of_append hafter)
  | plain hc => exact .plain hc

theorem Spells.of_append {source after behind text : List Char} (h : Spells source (after ++ behind) text) :
    Spells source after text := by
  generalize hwhole : after ++ behind = whole at h
  induction h with
  | nil => exact .nil
  | cons hpiece _ ih =>
    subst hwhole
    rw [← List.append_assoc] at hpiece
    exact .cons hpiece.of_append (ih rfl)

/-- A token stays what it is when what is behind it is cut off. -/
theorem Kind.ReadFrom.of_append {kind : Kind} {source after behind : List Char}
    (h : kind.ReadFrom source (after ++ behind)) : kind.ReadFrom source after := by
  cases h with
  | text hne hspells => exact .text hne hspells.of_append
  | mark hafter => exact .mark (forall_head?_of_append hafter)

/-! ### Moved tokens -/

/-- The token with `f` applied to the ends of its span. -/
def moved (f : Nat → Nat) (t : Token) : Token := ⟨t.kind, t.span.map f⟩

theorem ReadFrom.slice {t : Token} {before source after : String} (h : t.ReadFrom (before ++ source ++ after))
    (hstart : before.utf8ByteSize ≤ t.span.start)
    (hstop : t.span.stop ≤ before.utf8ByteSize + source.utf8ByteSize) :
    (t.moved (· - before.utf8ByteSize)).ReadFrom source := by
  obtain ⟨front, piece, back, hformat, hspan, hkind⟩ := h
  simp only [hspan] at hstart hstop
  rw [String.append_assoc, String.append_assoc] at hformat
  obtain ⟨lead, rfl, hsource⟩ := exists_append_of_utf8ByteSize_le hformat hstart
  rw [String.utf8ByteSize_append] at hspan hstop
  have hle : (lead ++ piece).utf8ByteSize ≤ source.utf8ByteSize := by
    rw [String.utf8ByteSize_append]
    omega
  rw [← String.append_assoc] at hsource
  obtain ⟨tail, hslice, rfl⟩ := exists_append_of_utf8ByteSize_le hsource.symm hle
  refine ⟨lead, piece, tail, hslice, ?_, ?_⟩
  · simp only [moved, hspan, Span.map, Span.mk.injEq]
    omega
  · rw [String.toList_append] at hkind
    exact hkind.of_append

theorem Tiles.bounds {a b : Nat} {tokens : List Token} (h : Tiles a tokens b) :
    ∀ t ∈ tokens, a ≤ t.span.start ∧ t.span.start < t.span.stop ∧ t.span.stop ≤ b := by
  induction tokens generalizing a with
  | nil => simp
  | cons t rest ih =>
    obtain ⟨rfl, hlt, htail⟩ := h
    refine List.forall_mem_cons.2 ⟨⟨le_rfl, hlt, htail.le⟩, fun u hu => ?_⟩
    have hu := ih htail u hu
    omega

theorem Tiles.lt {a b : Nat} {tokens : List Token} (h : Tiles a tokens b) (hne : tokens ≠ []) : a < b := by
  cases tokens with
  | nil => exact absurd rfl hne
  | cons t rest =>
    obtain ⟨-, hlt, htail⟩ := h
    have hle := htail.le
    omega

theorem Tiles.exists_of_infix {a b : Nat} {tokens inner : List Token} (h : Tiles a tokens b)
    (hinner : inner <:+: tokens) : ∃ c d, Tiles c inner d ∧ a ≤ c ∧ d ≤ b := by
  obtain ⟨front, back, rfl⟩ := hinner
  obtain ⟨d, hbefore, hback⟩ := h.exists_of_append
  obtain ⟨c, hfront, hinner⟩ := hbefore.exists_of_append
  exact ⟨c, d, hinner, hfront.le, hback.le⟩

theorem Tiles.moved {a b offset : Nat} {tokens : List Token} (h : Tiles a tokens b) (hle : offset ≤ a) :
    Tiles (a - offset) (tokens.map (Token.moved (· - offset))) (b - offset) := by
  induction tokens generalizing a with
  | nil => exact congrArg (· - offset) h
  | cons t rest ih =>
    obtain ⟨rfl, hlt, htail⟩ := h
    exact ⟨rfl, Nat.sub_lt_sub_right hle hlt, ih htail (hle.trans hlt.le)⟩

/-- Tokens moved back and forth. -/
theorem Tiles.map_moved_moved {a b : Nat} {tokens : List Token} (h : Tiles a tokens b) :
    (tokens.map (Token.moved (· - a))).map (Token.moved (· + a)) = tokens := by
  rw [List.map_map]
  conv_rhs => rw [← List.map_id tokens]
  refine List.map_congr_left fun t ht => ?_
  obtain ⟨hstart, hlt, -⟩ := h.bounds t ht
  have hstop : a ≤ t.span.stop := hstart.trans hlt.le
  simp [Token.moved, Span.map, hstart, hstop]

/-- The tokens of a slice are those inside of it, moved to its start. -/
theorem Decomposition.slice {before source after : String} {tokens inner : List Token}
    (h : Decomposition (before ++ source ++ after) tokens) (hinner : inner <:+: tokens)
    (htiles : Tiles before.utf8ByteSize inner (before.utf8ByteSize + source.utf8ByteSize)) :
    Decomposition source (inner.map (moved (· - before.utf8ByteSize))) where
  tiles := by
    have hmoved := htiles.moved le_rfl
    rwa [Nat.sub_self, Nat.add_sub_cancel_left] at hmoved
  apart := by
    rw [List.isChain_map]
    exact h.apart.infix hinner
  readFrom := by
    rw [List.forall_mem_map]
    intro t ht
    obtain ⟨hstart, -, hstop⟩ := htiles.bounds t ht
    exact (h.readFrom t (hinner.subset ht)).slice hstart hstop

/-! ### Places between characters -/

theorem ReadFrom.liesIn {format : String} {t : Token} (h : t.ReadFrom format) : t.span.LiesIn format := by
  obtain ⟨before, source, after, hformat, hspan, -⟩ := h
  have hcovers : t.span.Covers source format := ⟨before, after, hformat, hspan⟩
  exact hcovers.liesIn

theorem Tiles.isValid {a b : Nat} {format : String} {tokens : List Token} (h : Tiles a tokens b)
    (hread : ∀ t ∈ tokens, t.ReadFrom format) (ha : String.Pos.Raw.IsValid format ⟨a⟩) :
    String.Pos.Raw.IsValid format ⟨b⟩ := by
  induction tokens generalizing a with
  | nil =>
    obtain rfl : a = b := h
    exact ha
  | cons t rest ih =>
    obtain ⟨hfirst, hrest⟩ := List.forall_mem_cons.1 hread
    exact ih h.2.2 hrest hfirst.liesIn.stop

/-- Tokens that stand side by side cover a slice. -/
theorem Decomposition.exists_slice {format : String} {tokens inner : List Token} (h : Decomposition format tokens)
    (hinner : inner <:+: tokens) :
    ∃ before source after : String, format = before ++ source ++ after ∧
      Tiles before.utf8ByteSize inner (before.utf8ByteSize + source.utf8ByteSize) := by
  obtain ⟨front, back, rfl⟩ := hinner
  obtain ⟨stop, hbefore, -⟩ := h.tiles.exists_of_append
  obtain ⟨start, hfront, hinner⟩ := hbefore.exists_of_append
  have hstart : String.Pos.Raw.IsValid format ⟨start⟩ :=
    hfront.isValid (fun t ht => h.readFrom t (by simp [ht])) String.Pos.Raw.isValid_zero
  have hstop : String.Pos.Raw.IsValid format ⟨stop⟩ := hinner.isValid (fun t ht => h.readFrom t (by simp [ht])) hstart
  have hlies : (⟨start, stop⟩ : Span).LiesIn format := ⟨hstart, hstop, hinner.le, hstop.le_utf8ByteSize⟩
  obtain ⟨source, before, after, hformat, hspan⟩ := hlies.exists_covers
  obtain ⟨rfl, rfl⟩ := Span.mk.inj hspan
  exact ⟨before, source, after, hformat, hinner⟩

end Token

namespace Grammar

open Token (Tiles moved)

theorem Sequence.moved (f : Nat → Nat) {tokens : List Token} {nodes : List Node} (h : Sequence tokens nodes) :
    Sequence (tokens.map (Token.moved f)) (nodes.map (Node.mapSpans (Span.map f))) := by
  induction h with
  | nil => exact .nil
  | text _ ih => exact .text ih
  | wrap _ ih => exact .wrap ih
  | field _ ih => exact .field ih
  | verbField _ ih => exact .verbField ih
  | @conditional scope condition a b c d inner items rest nodes _ _ ihbody ih =>
    rw [List.map_cons, List.map_cons, List.map_cons, List.map_append, List.map_cons, List.map_cons, Node.mapSpans,
      Node.mapSpans, Node.mapSpansIn_eq_map]
    exact .conditional ihbody ih

/-- Tokens are read as one sequence of nodes only. -/
theorem Sequence.unique {tokens : List Token} {nodes others : List Node} (h : Sequence tokens nodes)
    (hothers : Sequence tokens others) : nodes = others := by
  have hrun := (h.run "" [] [] []).symm.trans (hothers.run "" [] [] [])
  simpa [Parser.run] using hrun

/-- Tokens inside of a format string that are a sequence cover a slice of it, which is read as the nodes of the
sequence. -/
theorem Sequence.readsAs {format : String} {tokens inner : List Token} {nodes : List Node} (h : Sequence inner nodes)
    (hscan : Token.scan format = Token.framed format tokens) (hinner : inner <:+: tokens) :
    ∃ span : Span, Tiles span.start inner span.stop ∧ span.ReadsAs format (Node.list nodes).simplify := by
  have hdecomposition := Token.decomposition_of_scan_eq hscan
  obtain ⟨before, source, after, rfl, htiles⟩ := hdecomposition.exists_slice hinner
  -- the tokens of the slice are those of the sequence moved back, and so are its nodes
  have hback := h.moved (· - before.utf8ByteSize)
  have hparsed := hback.ofTokens source ⟨0, 0⟩ ⟨source.utf8ByteSize, source.utf8ByteSize⟩
  rw [← Token.framed, ← (hdecomposition.slice hinner htiles).scan_eq] at hparsed
  have hforth := hback.moved (· + before.utf8ByteSize)
  rw [htiles.map_moved_moved] at hforth
  refine ⟨_, htiles, source, ⟨before, after, rfl, rfl⟩, congrArg ParsedTemplate.error hparsed, ?_⟩
  have hroot : (Template.ofFormat source).root = (Node.list _).simplify := congrArg ParsedTemplate.root hparsed
  rw [hroot, Node.mapSpans_simplify, Node.mapSpans, Node.mapSpansIn_eq_map, hforth.unique h]

end Grammar

end Mishap
