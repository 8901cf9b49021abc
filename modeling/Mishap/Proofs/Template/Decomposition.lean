import Mishap.Proofs.Template.Positions

/-!
What tokens are read from. A character of text may stand for itself or be spelled with two characters, a control
sequence stands for itself unless what is behind it makes it a longer one. Main statement: the tokens of a format string
are the only ones that cover it in such a way and never have a text next to another.
-/

namespace Mishap.Token

/-! ### Spellings -/

/-- The spellings of a character of text, before the characters `after`. A backslash stands for itself unless it is
before one of the characters that it escapes. -/
inductive SpellsChar : Char → List Char → List Char → Prop
  | escaped {c : Char} {after : List Char} (h : isControl c = true) : SpellsChar c ['\\', c] after
  | doubled {after : List Char} : SpellsChar '%' ['%', '%'] after
  | backslash {after : List Char} (h : ∀ c ∈ after.head?, isControl c = false) : SpellsChar '\\' ['\\'] after
  | plain {c : Char} {after : List Char} (h : isControl c = false) : SpellsChar c [c] after

/-- The characters `source`, before the characters `after`, spell a text, from left to right. -/
inductive Spells : List Char → List Char → List Char → Prop
  | nil {after : List Char} : Spells [] after []
  | cons {c : Char} {piece source after text : List Char} (hpiece : SpellsChar c piece (source ++ after))
      (h : Spells source after text) : Spells (piece ++ source) after (c :: text)

/-- The characters that do not leave a control sequence right before them as it is. -/
def Mark.Yields : Mark → Char → Prop
  | .field .own, c => c = '%' ∨ c = '!' ∨ c = 'w'
  | .field .passed, c => c = '!' ∨ c = 'w'
  | _, _ => False

/-- How the two kinds of tokens that are not empty are read from the characters `source` before `after`. -/
inductive Kind.ReadFrom : Kind → List Char → List Char → Prop
  | text {s : String} {source after : List Char} (hne : s ≠ "") (h : Spells source after s.toList) :
    ReadFrom (.text s) source after
  | mark {m : Mark} {after : List Char} (h : ∀ c ∈ after.head?, ¬ m.Yields c) :
    ReadFrom (.mark m) m.spelling.toList after

/-- The token is read from the characters of the format string that lie in its span, which begins and ends between
two characters. -/
def ReadFrom (format : String) (t : Token) : Prop :=
  ∃ before source after : String, format = before ++ source ++ after ∧
    t.span = ⟨before.utf8ByteSize, before.utf8ByteSize + source.utf8ByteSize⟩ ∧
    t.kind.ReadFrom source.toList after.toList

def Kind.isText : Kind → Bool
  | .text _ => true
  | _ => false

/-- Two tokens that are not both text. -/
def Apart (a b : Token) : Prop := ¬ (a.kind.isText ∧ b.kind.isText)

/-- The tokens cover a format string from end to end, each is read from what lies in its span, and text is not cut
in two. -/
structure Decomposition (format : String) (tokens : List Token) : Prop where
  tiles : Tiles 0 tokens format.utf8ByteSize
  apart : tokens.IsChain Apart
  readFrom : ∀ t ∈ tokens, t.ReadFrom format

/-- Tokens between those of the start and the end of a format string. -/
def framed (format : String) (tokens : List Token) : List Token :=
  ⟨.start, ⟨0, 0⟩⟩ :: (tokens ++ [⟨.stop, ⟨format.utf8ByteSize, format.utf8ByteSize⟩⟩])

/-! ### Sizes -/

/-- The bytes of a text. -/
def size (text : List Char) : Nat := (String.ofList text).utf8ByteSize

theorem size_append (a b : List Char) : size (a ++ b) = size a + size b := by
  rw [size, String.ofList_append, String.utf8ByteSize_append]
  rfl

theorem size_cons (c : Char) (text : List Char) : size (c :: text) = c.utf8Size + size text :=
  utf8ByteSize_ofList_cons c text

theorem size_toList (s : String) : size s.toList = s.utf8ByteSize := by
  rw [size, String.ofList_toList]

theorem size_add_width_mark (before : List Char) (m : Mark) :
    size before + (Lexeme.mark m).width = size (before ++ m.spelling.toList) := by
  rw [size_append, size_toList, Lexeme.width]

theorem eq_nil_of_size {text : List Char} (h : size text = 0) : text = [] := by
  cases text with
  | nil => rfl
  | cons c text =>
    have hc := c.utf8Size_pos
    rw [size_cons] at h
    omega

theorem eq_nil_of_size_append {before text : List Char} (h : size before = size (before ++ text)) : text = [] := by
  rw [size_append] at h
  exact eq_nil_of_size (by omega)

/-- A place in a text is determined by the bytes before it. -/
theorem eq_of_size_eq {before after front back : List Char} (h : before ++ after = front ++ back)
    (hsize : size before = size front) : before = front := by
  induction before generalizing front with
  | nil => exact (eq_nil_of_size hsize.symm).symm
  | cons c before ih =>
    cases front with
    | nil => exact eq_nil_of_size hsize
    | cons d front =>
      obtain ⟨rfl, hrest⟩ := List.cons.inj h
      rw [size_cons, size_cons, Nat.add_left_cancel_iff] at hsize
      rw [ih hrest hsize]

/-! ### Lexemes -/

/-- How a lexeme is read from the characters `source` before `after`. -/
inductive Lexeme.ReadFrom : Lexeme → List Char → List Char → Prop
  | literal {c : Char} {source after : List Char} (h : SpellsChar c source after) :
    ReadFrom (.literal c (size source)) source after
  | mark {m : Mark} {after : List Char} (h : ∀ c ∈ after.head?, ¬ m.Yields c) :
    ReadFrom (.mark m) m.spelling.toList after

theorem SpellsChar.ne_nil {c : Char} {source after : List Char} (h : SpellsChar c source after) : source ≠ [] := by
  cases h <;> simp

theorem lexemes_backslash {after : List Char} (h : ∀ c ∈ after.head?, isControl c = false) :
    lexemes ('\\' :: after) = .literal '\\' 1 :: lexemes after := by
  cases after with
  | nil => rfl
  | cons c rest => rw [lexemes, if_neg (by simp [h c rfl])]

/-- What a lexeme can be read from is read as that lexeme. -/
theorem Lexeme.ReadFrom.lexemes_append {part : Lexeme} {source after : List Char} (h : part.ReadFrom source after) :
    lexemes (source ++ after) = part :: lexemes after := by
  cases h with
  | @literal c _ _ hchar =>
    cases hchar with
    | escaped hc =>
      have hsize : size ['\\', c] = 2 := by
        rw [size_cons, size_cons, utf8Size_of_isControl hc]
        rfl
      rw [hsize]
      exact lexemes_escaped hc after
    | doubled =>
      rw [List.cons_append, List.cons_append, List.nil_append, lexemes]
      rfl
    | backslash hafter => exact lexemes_backslash hafter
    | plain hc =>
      have hsize : size [c] = c.utf8Size := size_cons c []
      rw [hsize]
      exact lexemes_of_not_control hc after
  | @mark m _ hafter =>
    have hne {c : Char} (hc : m.Yields c) : after.head? ≠ some c := fun hhead => hafter c hhead hc
    cases m with
    | field scope =>
      cases scope with
      | own => exact lexemes_field .own (hne (.inl rfl)) (hne (.inr (.inl rfl))) (hne (.inr (.inr rfl)))
      | passed =>
        have hbang := ne_cons_of_head?_ne (hne (.inl rfl))
        have hw := ne_cons_of_head?_ne (hne (.inr rfl))
        show lexemes ('$' :: after) = _
        rw [lexemes] <;> assumption
    | guard scope => cases scope <;> simp [Mark.spelling, lexemes]
    | wrap scope => cases scope <;> simp [Mark.spelling, lexemes]
    | openBrace => exact lexemes_openBrace after
    | closeBrace => exact lexemes_closeBrace after

theorem exists_readFrom {text : List Char} (h : text ≠ []) :
    ∃ part source after, text = source ++ after ∧ Lexeme.ReadFrom part source after := by
  have hnot {c : Char} {after : List Char} (hne : ∀ tail, after ≠ c :: tail) : after.head? ≠ some c := by
    intro hhead
    obtain ⟨tail, htail⟩ := List.head?_eq_some_iff.1 hhead
    exact hne tail htail
  fun_cases lexemes text with
  | case1 => exact absurd rfl h
  | case2 c rest hc => exact ⟨_, _, rest, rfl, .literal (.escaped hc)⟩
  | case3 c rest hc => exact ⟨_, _, c :: rest, rfl, .literal (.backslash (by simpa using hc))⟩
  | case4 rest => exact ⟨_, _, rest, rfl, .literal .doubled⟩
  | case5 rest => exact ⟨.mark (.guard .own), _, rest, rfl, .mark (by simp [Mark.Yields])⟩
  | case6 rest => exact ⟨.mark (.guard .passed), _, rest, rfl, .mark (by simp [Mark.Yields])⟩
  | case7 rest => exact ⟨.mark (.wrap .own), _, rest, rfl, .mark (by simp [Mark.Yields])⟩
  | case8 rest => exact ⟨.mark (.wrap .passed), _, rest, rfl, .mark (by simp [Mark.Yields])⟩
  | case9 rest hpercent hbang hw =>
    refine ⟨.mark (.field .own), _, rest, rfl, .mark ?_⟩
    rintro c hc (rfl | rfl | rfl)
    · exact hnot hpercent hc
    · exact hnot hbang hc
    · exact hnot hw hc
  | case10 rest hbang hw =>
    refine ⟨.mark (.field .passed), _, rest, rfl, .mark ?_⟩
    rintro c hc (rfl | rfl)
    · exact hnot hbang hc
    · exact hnot hw hc
  | case11 rest => exact ⟨.mark .openBrace, _, rest, rfl, .mark (by simp [Mark.Yields])⟩
  | case12 rest => exact ⟨.mark .closeBrace, _, rest, rfl, .mark (by simp [Mark.Yields])⟩
  | case13 c rest hescape _ _ _ _ _ hpercent hdollar hopen hclose =>
    by_cases hc : c = '\\'
    · -- a backslash with a character behind it is read before this case
      subst hc
      cases rest with
      | nil => exact ⟨_, _, [], rfl, .literal (.backslash (by simp))⟩
      | cons first tail => exact absurd rfl (hescape first tail rfl)
    · have hcontrol : isControl c = false := by
        simp only [isControl, Bool.or_eq_false_iff, beq_eq_false_iff_ne]
        exact ⟨⟨⟨⟨hpercent, hdollar⟩, hopen⟩, hclose⟩, hc⟩
      exact ⟨_, [c], rest, rfl, .literal (.plain hcontrol)⟩

theorem Lexeme.ReadFrom.ne_nil {part : Lexeme} {source after : List Char} (h : part.ReadFrom source after) :
    source ≠ [] := by
  cases h with
  | literal hchar => exact hchar.ne_nil
  | @mark m _ _ =>
    have hm := m.spelling_pos
    intro hnil
    rw [String.toList_eq_nil_iff] at hnil
    simp [hnil] at hm

/-- A text is read lexeme by lexeme. -/
@[elab_as_elim]
theorem induct_readFrom {motive : List Char → Prop} (nil : motive [])
    (cons : ∀ part source after, Lexeme.ReadFrom part source after → motive after → motive (source ++ after)) :
    ∀ text, motive text := by
  intro text
  induction hlength : text.length using Nat.strong_induction_on generalizing text with
  | _ n ih =>
    subst hlength
    by_cases htext : text = []
    · exact htext ▸ nil
    · obtain ⟨part, source, after, rfl, hread⟩ := exists_readFrom htext
      have hsource := List.length_pos_iff.2 hread.ne_nil
      exact cons part source after hread (ih after.length (by simpa using hsource) after rfl)

/-! ### Tokens of a text -/

theorem SpellsChar.spells {c : Char} {piece after : List Char} (h : SpellsChar c piece after) :
    Spells piece after [c] := by
  have hpiece : Spells (piece ++ []) after [c] := .cons h .nil
  rwa [List.append_nil] at hpiece

theorem Spells.append {c : Char} {source piece after text : List Char} (h : Spells source (piece ++ after) text)
    (hpiece : SpellsChar c piece after) : Spells (source ++ piece) after (text ++ [c]) := by
  generalize hbehind : piece ++ after = behind at h
  induction h with
  | nil => exact hpiece.spells
  | @cons d front source _ text hfront _ ih =>
    subst hbehind
    rw [List.append_assoc]
    exact .cons (by rwa [List.append_assoc]) (ih rfl)

/-- The text that is being read stands right before the rest of the format string. -/
def Run.EndsAt (run : Option Run) (before after : List Char) : Prop :=
  ∀ r ∈ run, ∃ front source, before = front ++ source ∧ r.start = size front ∧ r.chars ≠ [] ∧
    Spells source after r.chars.reverse

theorem readFrom_of_lists {format before source after : List Char} {t : Token}
    (hformat : format = before ++ source ++ after) (hspan : t.span = ⟨size before, size before + size source⟩)
    (hkind : t.kind.ReadFrom source after) : t.ReadFrom (String.ofList format) := by
  refine ⟨String.ofList before, String.ofList source, String.ofList after, ?_, hspan, ?_⟩
  · rw [hformat, String.ofList_append, String.ofList_append]
  · rwa [String.toList_ofList, String.toList_ofList]

theorem readFrom_of_mem_token? {run : Option Run} {before after : List Char} (hrun : Run.EndsAt run before after) :
    ∀ t ∈ Run.token? run (size before), t.ReadFrom (String.ofList (before ++ after)) := by
  intro t ht
  cases run with
  | none => cases ht
  | some r =>
    obtain ⟨front, source, rfl, hstart, hne, hspells⟩ := hrun r rfl
    obtain rfl := List.mem_singleton.1 ht
    refine readFrom_of_lists rfl ?_ (.text (by simpa using hne) (by rwa [String.toList_ofList]))
    rw [hstart, size_append]

/-- All tokens behind `before` but the end are read from what lies in their spans. -/
theorem readFrom_of_mem_ofLexemes (text before : List Char) (run : Option Run) (hrun : Run.EndsAt run before text) :
    ∀ t ∈ ofLexemes (size before) run (lexemes text),
      t.kind = .stop ∨ t.ReadFrom (String.ofList (before ++ text)) := by
  induction text using induct_readFrom generalizing before run with
  | nil =>
    intro t ht
    rcases List.mem_append.1 ht with ht | ht
    · exact .inr (readFrom_of_mem_token? hrun t ht)
    · obtain rfl := List.mem_singleton.1 ht
      exact .inl rfl
  | cons part source after hread ih =>
    rw [hread.lexemes_append]
    cases hread with
    | @literal c _ _ hchar =>
      have hsize : size before + (Lexeme.literal c (size source)).width = size (before ++ source) :=
        (size_append before source).symm
      rw [← List.append_assoc]
      cases run with
      | none =>
        rw [ofLexemes, hsize]
        refine ih (before ++ source) _ ?_
        rintro r ⟨⟩
        exact ⟨before, source, rfl, rfl, by simp, hchar.spells⟩
      | some r =>
        obtain ⟨front, pending, rfl, hstart, hne, hspells⟩ := hrun r rfl
        rw [ofLexemes, hsize]
        refine ih (front ++ pending ++ source) _ ?_
        rintro r ⟨⟩
        refine ⟨front, pending ++ source, by simp, hstart, by simp, ?_⟩
        rw [List.reverse_cons]
        exact hspells.append hchar
    | @mark m _ hafter =>
      rw [ofLexemes, size_add_width_mark]
      intro t ht
      rcases List.mem_append.1 ht with ht | ht
      · exact .inr (readFrom_of_mem_token? hrun t ht)
      rcases List.mem_cons.1 ht with rfl | ht
      · refine .inr (readFrom_of_lists (List.append_assoc ..).symm ?_ (.mark hafter))
        rw [size_append]
      · rw [← List.append_assoc]
        exact ih (before ++ m.spelling.toList) none (by simp [Run.EndsAt]) t ht

/-! ### Text next to text -/

/-- Two kinds that are not both text. -/
theorem isChain_kinds_apart (pending : List Char) (parts : List Lexeme) :
    (kinds pending parts).IsChain fun a b => ¬ (a.isText ∧ b.isText) := by
  induction parts generalizing pending with
  | nil => cases pending <;> simp [kinds, textKinds]
  | cons part rest ih =>
    cases part with
    | literal c width => exact ih _
    | mark m =>
      have hmark : (Kind.mark m :: kinds [] rest).IsChain fun a b => ¬ (a.isText ∧ b.isText) :=
        List.isChain_cons.2 ⟨by simp [Kind.isText], ih []⟩
      cases pending with
      | nil => exact hmark
      | cons c pending => exact List.isChain_cons.2 ⟨by simp [Kind.isText], hmark⟩

theorem decomposition_of_scan_eq {format : String} {tokens : List Token} (h : scan format = framed format tokens) :
    Decomposition format tokens := by
  obtain ⟨inner, hkinds, hscan⟩ := scan_eq format
  obtain rfl : inner = tokens := by
    rw [hscan] at h
    exact List.append_cancel_right (List.cons.inj h).2
  refine ⟨tiles_of_scan_eq hscan, ?_, ?_⟩
  · have hchain := isChain_kinds_apart [] (lexemes format.toList)
    rw [← hkinds, List.isChain_map] at hchain
    exact hchain
  · intro t ht
    have hmem : t ∈ ofLexemes 0 none (lexemes format.toList) := by
      rw [scan] at h
      rw [(List.cons.inj h).2]
      exact List.mem_append_left _ ht
    have hread := readFrom_of_mem_ofLexemes format.toList [] none (by simp [Run.EndsAt]) t hmem
    rw [List.nil_append, String.ofList_toList] at hread
    refine hread.resolve_left ?_
    intro hstop
    have hkind : t.kind ∈ kinds [] (lexemes format.toList) := hkinds ▸ List.mem_map_of_mem ht
    rcases mem_kinds hkind with ⟨s, hs, -⟩ | ⟨m, hm⟩
    · cases hstop.symm.trans hs
    · cases hstop.symm.trans hm

/-! ### No other tokens -/

theorem SpellsChar.ofLexemes_append {c : Char} {piece after : List Char} (h : SpellsChar c piece after)
    (position : Nat) (run : Option Run) :
    ofLexemes position run (lexemes (piece ++ after)) =
      ofLexemes (position + size piece)
        (some (match run with
          | some run => { run with chars := c :: run.chars }
          | none => ⟨[c], position⟩)) (lexemes after) := by
  rw [(Lexeme.ReadFrom.literal h).lexemes_append]
  cases run <;> rfl

/-- A spelling adds its text to the one that is being read. -/
theorem Spells.ofLexemes_append {source after text : List Char} (h : Spells source after text) (position : Nat)
    (r : Run) :
    ofLexemes position (some r) (lexemes (source ++ after)) =
      ofLexemes (position + size source) (some { r with chars := text.reverse ++ r.chars }) (lexemes after) := by
  induction h generalizing position r with
  | nil => rfl
  | cons hpiece _ ih =>
    rw [List.append_assoc, hpiece.ofLexemes_append, ih, size_append, Nat.add_assoc]
    simp

theorem Spells.ofLexemes_none {source after text : List Char} (h : Spells source after text) (hne : text ≠ [])
    (position : Nat) :
    ofLexemes position none (lexemes (source ++ after)) =
      ofLexemes (position + size source) (some ⟨text.reverse, position⟩) (lexemes after) := by
  cases h with
  | nil => exact absurd rfl hne
  | cons hpiece h =>
    rw [List.append_assoc, hpiece.ofLexemes_append, h.ofLexemes_append, size_append, Nat.add_assoc]
    simp

/-- The rest of the text has been read where no text begins. -/
theorem ofLexemes_of_not_literal {parts : List Lexeme} (h : ∀ c width, parts.head? ≠ some (.literal c width))
    (position : Nat) (r : Run) :
    ofLexemes position (some r) parts = Run.token? (some r) position ++ ofLexemes position none parts := by
  rcases parts with _ | ⟨⟨c, width⟩ | m, rest⟩
  · rfl
  · exact absurd rfl (h c width)
  · rfl

theorem Kind.ReadFrom.head?_lexemes {k : Kind} {source after : List Char} (h : k.ReadFrom source after)
    (htext : k.isText = false) (c : Char) (width : Nat) :
    (lexemes (source ++ after)).head? ≠ some (.literal c width) := by
  cases h with
  | text => cases htext
  | mark hafter =>
    rw [(Lexeme.ReadFrom.mark hafter).lexemes_append]
    rintro ⟨⟩

/-- Where a token is read from if it begins right behind some characters. -/
theorem ReadFrom.exists_of_start {t : Token} {before text : List Char} (h : t.ReadFrom (String.ofList (before ++ text)))
    (hstart : t.span.start = size before) :
    ∃ source after, text = source ++ after ∧ t.span = ⟨size before, size (before ++ source)⟩ ∧
      t.kind.ReadFrom source after := by
  obtain ⟨front, source, after, hformat, hspan, hkind⟩ := h
  have hlists : before ++ text = front.toList ++ (source.toList ++ after.toList) := by
    simpa using congrArg String.toList hformat
  rw [hspan] at hstart
  obtain rfl := eq_of_size_eq hlists (by rw [size_toList]; exact hstart.symm)
  refine ⟨source.toList, after.toList, List.append_cancel_left hlists, ?_, hkind⟩
  rw [hspan, size_append, size_toList, size_toList]

/-- A text ends where the tokens behind it begin with none. -/
theorem head?_lexemes_of_tiles {tokens : List Token} {before text : List Char}
    (htiles : Tiles (size before) tokens (size (before ++ text)))
    (htext : ∀ t ∈ tokens.head?, t.kind.isText = false)
    (hread : ∀ t ∈ tokens, t.ReadFrom (String.ofList (before ++ text))) (c : Char) (width : Nat) :
    (lexemes text).head? ≠ some (.literal c width) := by
  cases tokens with
  | nil =>
    obtain rfl : text = [] := eq_nil_of_size_append htiles
    rintro ⟨⟩
  | cons t tokens =>
    obtain ⟨source, after, rfl, -, hkind⟩ := (hread t List.mem_cons_self).exists_of_start htiles.1
    exact hkind.head?_lexemes (htext t rfl) c width

/-- Tokens that cover the rest of a format string, each read from its span and no text next to another, are the ones
that are read there. -/
theorem ofLexemes_of_readFrom (tokens : List Token) {before text : List Char}
    (htiles : Tiles (size before) tokens (size (before ++ text))) (hapart : tokens.IsChain Apart)
    (hread : ∀ t ∈ tokens, t.ReadFrom (String.ofList (before ++ text))) :
    ofLexemes (size before) none (lexemes text) =
      tokens ++ [⟨.stop, ⟨size (before ++ text), size (before ++ text)⟩⟩] := by
  induction tokens generalizing before text with
  | nil =>
    obtain rfl : text = [] := eq_nil_of_size_append htiles
    rw [List.append_nil]
    rfl
  | cons t tokens ih =>
    obtain ⟨hstart, -, htail⟩ := htiles
    obtain ⟨hnext, hchain⟩ := List.isChain_cons.1 hapart
    obtain ⟨hfirst, hrest⟩ := List.forall_mem_cons.1 hread
    obtain ⟨source, after, rfl, hspan, hkind⟩ := hfirst.exists_of_start hstart
    obtain ⟨kind, span⟩ := t
    obtain rfl : span = _ := hspan
    rw [← List.append_assoc] at htail hrest ⊢
    have hbehind := ih htail hchain hrest
    cases hkind with
    | @text s _ _ hne hspells =>
      have hother : ∀ u ∈ tokens.head?, u.kind.isText = false := by
        intro u hu
        simpa [Apart, Kind.isText] using hnext u hu
      have hends := ofLexemes_of_not_literal (head?_lexemes_of_tiles htail hother hrest)
      rw [hspells.ofLexemes_none (by simpa using hne), hends, ← size_append, hbehind]
      simp [Run.token?]
    | @mark m _ hafter =>
      rw [(Lexeme.ReadFrom.mark hafter).lexemes_append, ofLexemes, size_add_width_mark, hbehind]
      rfl

/-- Tokens that cut a format string into texts and control sequences are its tokens. -/
theorem Decomposition.scan_eq {format : String} {tokens : List Token} (h : Decomposition format tokens) :
    scan format = framed format tokens := by
  have htiles : Tiles (size []) tokens (size ([] ++ format.toList)) := by
    rw [List.nil_append, size_toList]
    exact h.tiles
  have htokens := ofLexemes_of_readFrom tokens htiles h.apart (by simpa using h.readFrom)
  rw [List.nil_append, size_toList] at htokens
  rw [scan, framed, ← htokens]
  rfl

/-- The tokens of a format string are framed by its start and its end, and those between are the only ones that cut it
into texts and control sequences. -/
theorem scan_decomposes (format : String) :
    ∃ tokens, scan format = framed format tokens ∧
      ∀ others, scan format = framed format others ↔ Decomposition format others := by
  obtain ⟨tokens, -, hscan⟩ := scan_eq format
  exact ⟨tokens, hscan, fun others => ⟨decomposition_of_scan_eq, Decomposition.scan_eq⟩⟩

/-- Three percent signs are one of text and the opening of a field. -/
theorem scan_decomposes_percent :
    Decomposition "é%%%\x7bé\\\x7d\\" [⟨.text "é%", ⟨0, 4⟩⟩, ⟨.mark (.field .own), ⟨4, 5⟩⟩,
      ⟨.mark .openBrace, ⟨5, 6⟩⟩, ⟨.text "é\x7d\\", ⟨6, 11⟩⟩] := by
  obtain ⟨tokens, -, h⟩ := scan_decomposes "é%%%\x7bé\\\x7d\\"
  exact (h _).1 (by decide)

end Mishap.Token
