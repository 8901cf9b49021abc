import Mathlib.Data.List.Chain
import Mishap.Template.Token

/-!
The tokens of a format string by their kinds: which lexemes characters begin, which tokens lexemes join into, and how
the tokens of a whole format string are framed.
-/

namespace Mishap.Token

theorem Mark.spelling_field (scope : Scope) : (Mark.field scope).spelling = scope.sigil.toString := by
  cases scope <;> rfl

theorem Mark.spelling_guard (scope : Scope) : (Mark.guard scope).spelling = scope.sigil.toString ++ "!" := by
  cases scope <;> rfl

theorem Mark.spelling_openBrace : Mark.openBrace.spelling = "\x7b" := rfl

/-! ### Lexemes at the front of a text -/

theorem lexemes_of_not_control {c : Char} (h : isControl c = false) (rest : List Char) :
    lexemes (c :: rest) = .literal c c.utf8Size :: lexemes rest := by
  simp only [isControl, Bool.or_eq_false_iff, beq_eq_false_iff_ne] at h
  rw [lexemes.eq_def]
  split <;> simp_all

theorem lexemes_escaped {c : Char} (h : isControl c = true) (rest : List Char) :
    lexemes ('\\' :: c :: rest) = .literal c 2 :: lexemes rest := by
  rw [lexemes, if_pos h]

theorem lexemes_wrap (scope : Scope) (rest : List Char) :
    lexemes (scope.sigil :: 'w' :: rest) = .mark (.wrap scope) :: lexemes rest := by
  cases scope <;> simp [Scope.sigil, lexemes]

theorem lexemes_guard (scope : Scope) (rest : List Char) :
    lexemes (scope.sigil :: '!' :: rest) = .mark (.guard scope) :: lexemes rest := by
  cases scope <;> simp [Scope.sigil, lexemes]

theorem lexemes_openBrace (rest : List Char) : lexemes ('{' :: rest) = .mark .openBrace :: lexemes rest := by
  simp [lexemes]

theorem lexemes_closeBrace (rest : List Char) : lexemes ('}' :: rest) = .mark .closeBrace :: lexemes rest := by
  simp [lexemes]

theorem ne_cons_of_head?_ne {c : Char} {rest : List Char} (h : rest.head? ≠ some c) (tail : List Char) :
    rest ≠ c :: tail := by
  rintro rfl
  exact h rfl

/-- A sigil opens a field unless what follows makes it a longer control sequence. -/
theorem lexemes_field (scope : Scope) {rest : List Char} (hpercent : rest.head? ≠ some '%')
    (hbang : rest.head? ≠ some '!') (hw : rest.head? ≠ some 'w') :
    lexemes (scope.sigil :: rest) = .mark (.field scope) :: lexemes rest := by
  have h1 := ne_cons_of_head?_ne hpercent
  have h2 := ne_cons_of_head?_ne hbang
  have h3 := ne_cons_of_head?_ne hw
  cases scope with
  | own => rw [Scope.sigil, lexemes] <;> assumption
  | passed => rw [Scope.sigil, lexemes] <;> assumption

/-- A lexeme of text that could not have been escaped is the character itself. -/
theorem head?_of_lexemes_eq {c : Char} {width : Nat} {rest : List Lexeme} (hc : isControl c = false) {text : List Char}
    (h : lexemes text = .literal c width :: rest) : text.head? = some c := by
  rw [lexemes.eq_def] at h
  split at h <;> try split at h
  all_goals simp_all
  all_goals
    obtain ⟨⟨rfl, -⟩, -⟩ := h
    simp [isControl] at hc

/-! ### What can follow the opening of a field -/

/-- Text that can be the verb of a field: behind a sigil it does not make a longer control sequence. -/
def IsVerbText (verb : String) : Prop :=
  verb ≠ "" ∧ verb.toList.head? ≠ some 'w' ∧ verb.toList.head? ≠ some '!'

/-- Whether a lexeme can stand right behind another. -/
def Lexeme.Follows : Lexeme → Lexeme → Prop
  | .mark (.field _), .literal c _ => c ≠ 'w' ∧ c ≠ '!'
  | _, _ => True

/-- Whether a kind of token can stand right behind another. -/
def Kind.Follows : Kind → Kind → Prop
  | .mark (.field _), .text s => IsVerbText s
  | _, _ => True

theorem Lexeme.follows_field (scope : Scope) {rest : List Char} (hbang : ∀ tail, rest ≠ '!' :: tail)
    (hw : ∀ tail, rest ≠ 'w' :: tail) : ∀ b ∈ (lexemes rest).head?, Lexeme.Follows (.mark (.field scope)) b := by
  intro b hb
  cases b with
  | mark m => trivial
  | literal c width =>
    obtain ⟨_, hlexemes⟩ := List.head?_eq_some_iff.1 hb
    have hhead (hc : isControl c = false) : ∃ tail, rest = c :: tail :=
      List.head?_eq_some_iff.1 (head?_of_lexemes_eq hc hlexemes)
    refine ⟨?_, ?_⟩
    · rintro rfl
      obtain ⟨tail, htail⟩ := hhead rfl
      exact hw tail htail
    · rintro rfl
      obtain ⟨tail, htail⟩ := hhead rfl
      exact hbang tail htail

theorem isChain_lexemes (text : List Char) : (lexemes text).IsChain Lexeme.Follows := by
  -- only the sigil of a field says anything about what is behind it
  fun_induction lexemes text with
  | case1 => exact .nil
  | case9 rest _ hbang hw ih => exact List.isChain_cons.2 ⟨Lexeme.follows_field .own hbang hw, ih⟩
  | case10 rest hbang hw ih => exact List.isChain_cons.2 ⟨Lexeme.follows_field .passed hbang hw, ih⟩
  | _ => exact List.isChain_cons.2 ⟨fun _ _ => trivial, by assumption⟩

/-! ### Kinds of joined lexemes -/

/-- Text as a token, unless it is empty. -/
def textKinds : List Char → List Kind
  | [] => []
  | chars => [.text (String.ofList chars)]

/-- The kinds of tokens that lexemes join into, after the text `pending`. -/
def kinds (pending : List Char) : List Lexeme → List Kind
  | [] => textKinds pending
  | .literal c _ :: rest => kinds (pending ++ [c]) rest
  | .mark m :: rest => textKinds pending ++ .mark m :: kinds [] rest

theorem textKinds_of_ne_nil {chars : List Char} (h : chars ≠ []) : textKinds chars = [.text (String.ofList chars)] := by
  cases chars with
  | nil => exact absurd rfl h
  | cons c rest => rfl

/-- The text of a run, its first character first. -/
def Run.pending : Option Run → List Char
  | some run => run.chars.reverse
  | none => []

theorem map_kind_token? {run : Option Run} (hrun : ∀ r ∈ run, r.chars ≠ []) (position : Nat) :
    (Run.token? run position).map kind = textKinds (Run.pending run) := by
  cases run with
  | none => rfl
  | some r =>
    have hr : r.chars.reverse ≠ [] := by simpa using hrun r rfl
    rw [Run.pending, textKinds_of_ne_nil hr]
    rfl

/-- The bytes that lexemes were read from. -/
def extent : List Lexeme → Nat
  | [] => 0
  | part :: rest => part.width + extent rest

/-- Joining lexemes gives tokens of the kinds that `kinds` says, and the end of the format string behind them. -/
theorem ofLexemes_eq_append (parts : List Lexeme) (position : Nat) (run : Option Run) (hrun : ∀ r ∈ run, r.chars ≠ []) :
    ∃ inner, inner.map kind = kinds (Run.pending run) parts ∧
      ofLexemes position run parts = inner ++ [⟨.stop, ⟨position + extent parts, position + extent parts⟩⟩] := by
  induction parts generalizing position run with
  | nil => exact ⟨Run.token? run position, map_kind_token? hrun position, rfl⟩
  | cons part rest ih =>
    cases part with
    | literal c width =>
      cases run with
      | none =>
        obtain ⟨inner, hkinds, hinner⟩ := ih (position + width) (some ⟨[c], position⟩) (by simp)
        rw [Nat.add_assoc] at hinner
        exact ⟨inner, hkinds, hinner⟩
      | some r =>
        obtain ⟨inner, hkinds, hinner⟩ := ih (position + width) (some { r with chars := c :: r.chars }) (by simp)
        rw [Nat.add_assoc] at hinner
        refine ⟨inner, ?_, hinner⟩
        simpa [Run.pending, kinds] using hkinds
    | mark m =>
      obtain ⟨inner, hkinds, hinner⟩ := ih (position + (Lexeme.mark m).width) none (by simp)
      refine ⟨Run.token? run position ++ ⟨.mark m, ⟨position, position + (Lexeme.mark m).width⟩⟩ :: inner, ?_, ?_⟩
      · simp [map_kind_token? hrun, hkinds, kinds, Run.pending]
      · rw [ofLexemes, extent]
        simp [hinner, Nat.add_assoc]

theorem utf8ByteSize_ofList_cons (c : Char) (rest : List Char) :
    (String.ofList (c :: rest)).utf8ByteSize = c.utf8Size + (String.ofList rest).utf8ByteSize := by
  rw [← List.singleton_append, String.ofList_append, String.utf8ByteSize_append]
  simp

theorem utf8Size_of_isControl {c : Char} (h : isControl c = true) : c.utf8Size = 1 := by
  simp only [isControl, Bool.or_eq_true, beq_iff_eq] at h
  rcases h with (((rfl | rfl) | rfl) | rfl) | rfl <;> rfl

/-- Lexemes are as wide as what they were read from. -/
theorem extent_lexemes (text : List Char) : extent (lexemes text) = (String.ofList text).utf8ByteSize := by
  have hbackslash : '\\'.utf8Size = 1 := rfl
  have hpercent : '%'.utf8Size = 1 := rfl
  have hmark (m : Mark) (rest : List Char) (ih : extent (lexemes rest) = (String.ofList rest).utf8ByteSize) :
      extent (.mark m :: lexemes rest) = (String.ofList (m.spelling.toList ++ rest)).utf8ByteSize := by
    rw [extent, Lexeme.width, ih, String.ofList_append, String.ofList_toList, String.utf8ByteSize_append]
  fun_induction lexemes text with
  | case1 => rfl
  | case2 c rest hc ih =>
    rw [extent, Lexeme.width, ih, utf8ByteSize_ofList_cons, utf8ByteSize_ofList_cons, utf8Size_of_isControl hc,
      hbackslash]
    omega
  | case3 c rest hc ih => rw [extent, Lexeme.width, ih, utf8ByteSize_ofList_cons '\\', hbackslash]
  | case4 rest ih =>
    rw [extent, Lexeme.width, ih, utf8ByteSize_ofList_cons, utf8ByteSize_ofList_cons, hpercent]
    omega
  | case5 rest ih => exact hmark (.guard .own) rest ih
  | case6 rest ih => exact hmark (.guard .passed) rest ih
  | case7 rest ih => exact hmark (.wrap .own) rest ih
  | case8 rest ih => exact hmark (.wrap .passed) rest ih
  | case9 rest _ _ _ ih => exact hmark (.field .own) rest ih
  | case10 rest _ _ ih => exact hmark (.field .passed) rest ih
  | case11 rest ih => exact hmark .openBrace rest ih
  | case12 rest ih => exact hmark .closeBrace rest ih
  | case13 c rest _ _ _ _ _ _ _ _ _ _ ih => rw [extent, Lexeme.width, ih, utf8ByteSize_ofList_cons]

/-- The tokens of a format string: the start, tokens of the kinds that its lexemes join into, and the end. -/
theorem scan_eq (format : String) :
    ∃ inner, inner.map kind = kinds [] (lexemes format.toList) ∧
      scan format = ⟨.start, ⟨0, 0⟩⟩ :: (inner ++ [⟨.stop, ⟨format.utf8ByteSize, format.utf8ByteSize⟩⟩]) := by
  obtain ⟨inner, hkinds, hinner⟩ := ofLexemes_eq_append (lexemes format.toList) 0 none (by simp)
  rw [extent_lexemes, String.ofList_toList, Nat.zero_add] at hinner
  refine ⟨inner, hkinds, ?_⟩
  rw [scan, hinner]

/-! ### What the tokens of a format string are -/

theorem mem_textKinds {chars : List Char} {k : Kind} (h : k ∈ textKinds chars) : ∃ s, k = .text s ∧ s ≠ "" := by
  cases chars with
  | nil => simp [textKinds] at h
  | cons c rest => exact ⟨String.ofList (c :: rest), by simpa [textKinds] using h, by simp⟩

/-- Between the start and the end there are texts, none of them empty, and control sequences. -/
theorem mem_kinds {parts : List Lexeme} {pending : List Char} {k : Kind} (h : k ∈ kinds pending parts) :
    (∃ s, k = .text s ∧ s ≠ "") ∨ ∃ m, k = .mark m := by
  induction parts generalizing pending with
  | nil => exact Or.inl (mem_textKinds h)
  | cons part rest ih =>
    cases part with
    | literal c width => exact ih h
    | mark m =>
      rw [kinds, List.mem_append, List.mem_cons] at h
      rcases h with h | rfl | h
      · exact Or.inl (mem_textKinds h)
      · exact Or.inr ⟨m, rfl⟩
      · exact ih h

theorem head?_kinds_cons (c : Char) (pending : List Char) (parts : List Lexeme) :
    ∃ s, (kinds (c :: pending) parts).head? = some (.text s) ∧ s.toList.head? = some c := by
  induction parts generalizing pending with
  | nil => exact ⟨_, rfl, by simp⟩
  | cons part rest ih =>
    cases part with
    | literal other width => exact ih (pending ++ [other])
    | mark m => exact ⟨_, rfl, by simp⟩

theorem Kind.follows_text (s : String) (k : Kind) : Kind.Follows (.text s) k := trivial

theorem isChain_textKinds_append (chars : List Char) {ks : List Kind} (h : ks.IsChain Kind.Follows) :
    (textKinds chars ++ ks).IsChain Kind.Follows := by
  cases chars with
  | nil => exact h
  | cons c rest => exact List.isChain_cons.2 ⟨fun k _ => Kind.follows_text _ k, h⟩

theorem Kind.follows_head?_kinds {m : Mark} {parts : List Lexeme}
    (h : ∀ part ∈ parts.head?, Lexeme.Follows (.mark m) part) :
    ∀ k ∈ (kinds [] parts).head?, Kind.Follows (.mark m) k := by
  intro k hk
  cases m with
  | field scope =>
    rcases parts with _ | ⟨⟨c, width⟩ | m, rest⟩
    · simp [kinds, textKinds] at hk
    · obtain ⟨s, hs, hc⟩ := head?_kinds_cons c [] rest
      obtain rfl : k = .text s := by simpa [kinds, hs] using hk.symm
      obtain ⟨hw, hbang⟩ : c ≠ 'w' ∧ c ≠ '!' := h _ rfl
      refine ⟨?_, by simpa [hc] using hw, by simpa [hc] using hbang⟩
      rintro rfl
      simp at hc
    · obtain rfl : k = .mark m := by simpa [kinds, textKinds] using hk.symm
      trivial
  | _ => trivial

theorem isChain_kinds {parts : List Lexeme} (h : parts.IsChain Lexeme.Follows) (pending : List Char) :
    (kinds pending parts).IsChain Kind.Follows := by
  induction parts generalizing pending with
  | nil => simpa [kinds] using isChain_textKinds_append pending (.nil : List.IsChain Kind.Follows [])
  | cons part rest ih =>
    obtain ⟨hhead, hrest⟩ := List.isChain_cons.1 h
    cases part with
    | literal c width => exact ih hrest _
    | mark m =>
      refine isChain_textKinds_append pending ?_
      exact List.isChain_cons.2 ⟨Kind.follows_head?_kinds hhead, ih hrest []⟩

end Mishap.Token
