import Mishap.Proofs.Template.Decomposition

/-!
Literal text. Every character of a text may be spelled in its own way, but what the characters are spelled with must not
be read as anything else. Main statement: the format strings that are nothing but a text are its spellings, and what
they are rendered to is the text.
-/

namespace Mishap

namespace Token

/-- The tokens of a text of `size` bytes, which are none if the text is empty. -/
def alone (text : String) (size : Nat) : List Token := if text = "" then [] else [⟨.text text, ⟨0, size⟩⟩]

theorem scan_of_spells {format text : String} (h : Spells format.toList [] text.toList) :
    scan format = framed format (alone text format.utf8ByteSize) := by
  by_cases htext : text = ""
  · subst htext
    have hformat : format.toList = [] := by
      generalize format.toList = source at h
      cases h
      rfl
    rw [String.toList_eq_nil_iff.1 hformat]
    rfl
  · have hne : text.toList ≠ [] := fun hnil => htext (String.toList_eq_nil_iff.1 hnil)
    have hlexemes := h.ofLexemes_none hne 0
    rw [List.append_nil, Nat.zero_add, size_toList] at hlexemes
    rw [scan, hlexemes, framed, alone, if_neg htext]
    simp [ofLexemes, lexemes, Run.token?]

/-- The characters of a text that is read alone are a spelling of it. -/
theorem spells_of_scan_eq {format text : String} {span : Span} (h : scan format = framed format [⟨.text text, span⟩]) :
    Spells format.toList [] text.toList := by
  obtain ⟨⟨hstart, -, hstop⟩, -, hread⟩ := decomposition_of_scan_eq h
  have htoken : (⟨.text text, span⟩ : Token).ReadFrom (String.ofList ([] ++ format.toList)) := by
    rw [List.nil_append, String.ofList_toList]
    exact hread _ List.mem_cons_self
  obtain ⟨source, after, hformat, hspan, hkind⟩ := htoken.exists_of_start hstart
  -- the token goes up to the end, so that nothing is left behind it
  have hsize : size source = size (source ++ after) := by
    rw [← hformat, size_toList, ← hstop]
    exact (congrArg Span.stop hspan).symm
  obtain rfl := eq_nil_of_size_append hsize
  rw [List.append_nil] at hformat
  cases hkind with
  | text _ hspells => rwa [hformat]

end Token

/-- Tokens that read as nothing but text are one token at most. -/
theorem Grammar.Sequence.eq_alone {tokens : List Token} {nodes : List Node} (h : Sequence tokens nodes)
    (hatoms : ∀ atom ∈ nodes.flatMap Node.atoms, ∃ s, atom = .literal s) (hapart : tokens.IsChain Token.Apart) :
    tokens = [] ∧ nodes = [] ∨ ∃ s span, tokens = [⟨.text s, span⟩] ∧ nodes = [.literal s] := by
  induction h with
  | nil => exact .inl ⟨rfl, rfl⟩
  | @text s span rest nodes _ ih =>
    obtain ⟨hnext, hchain⟩ := List.isChain_cons.1 hapart
    rw [List.flatMap_cons] at hatoms
    rcases ih (fun atom hatom => hatoms atom (List.mem_append_right _ hatom)) hchain with ⟨rfl, rfl⟩ | ⟨_, _, rfl, -⟩
    · exact .inr ⟨s, span, rfl, rfl⟩
    · exact absurd ⟨rfl, rfl⟩ (hnext _ rfl)
  | _ => simp [Node.atoms] at hatoms

namespace Template

variable {format text : String}

theorem parsed_of_spells (h : Token.Spells format.toList [] text.toList) :
    (ofFormat format).error? = none ∧ (ofFormat format).root = .literal text := by
  have hparsed : (ofFormat format).parsed = ⟨.literal text, none⟩ := by
    show ParsedTemplate.ofTokens format (Token.scan format) = _
    rw [Token.scan_of_spells h, Token.framed, Token.alone]
    split
    · next htext =>
      rw [htext]
      exact Grammar.Sequence.nil.ofTokens format _ _
    · rw [(Grammar.Sequence.text .nil).ofTokens format _ _, Node.simplify_list_singleton]
      rfl
  exact ⟨congrArg ParsedTemplate.error hparsed, congrArg ParsedTemplate.root hparsed⟩

theorem spells_of_parsed (herror : (ofFormat format).error? = none) (hroot : (ofFormat format).root = .literal text) :
    Token.Spells format.toList [] text.toList := by
  obtain ⟨inner, nodes, -, hscan, hinner, hnodes⟩ := Grammar.exists_sequence herror
  have hdecomposition := Token.decomposition_of_scan_eq hscan
  have hatoms : ∀ atom ∈ nodes.flatMap Node.atoms, ∃ s, atom = .literal s := by
    have hflat : nodes.flatMap Node.atoms = (Node.literal text).atoms := by
      rw [← hroot, hnodes, Node.atoms_simplify, Node.atoms, Node.atomsIn_eq_flatMap]
    simp [hflat, Node.atoms]
  rcases hinner.eq_alone hatoms hdecomposition.apart with ⟨rfl, rfl⟩ | ⟨s, span, rfl, rfl⟩
  · obtain rfl : "" = text := Node.literal.inj (hnodes.symm.trans hroot)
    have hformat : format = "" := String.utf8ByteSize_eq_zero_iff.1 (hdecomposition.tiles).symm
    rw [hformat]
    exact .nil
  · rw [Node.simplify_list_singleton] at hnodes
    obtain rfl : s = text := Node.literal.inj (hnodes.symm.trans hroot)
    exact Token.spells_of_scan_eq hscan

/-- The spellings of a text are the format strings that are read, without a problem, as that text alone. They have one
token at most, pass every check and are rendered to the text. -/
theorem literal_iff_spells (format text : String) :
    (((ofFormat format).error? = none ∧ (ofFormat format).root = .literal text) ↔
        Token.Spells format.toList [] text.toList) ∧
      (Token.Spells format.toList [] text.toList →
        Token.scan format = Token.framed format (Token.alone text format.utf8ByteSize) ∧
          (ofFormat format).verifySyntax = .ok () ∧
          ∀ own passed cause,
            (ofFormat format).verifyOwn own cause = .ok () ∧ (ofFormat format).verifyPassed own passed cause = .ok () ∧
              (ofFormat format).render own passed cause = .ok text) := by
  refine ⟨⟨fun h => spells_of_parsed h.1 h.2, parsed_of_spells⟩, fun h => ?_⟩
  obtain ⟨herror, hroot⟩ := parsed_of_spells h
  have hverify (level : Level) (setting : Setting) : (ofFormat format).verify level setting = .ok () := by
    rw [verify, herror, hroot]
    rfl
  refine ⟨Token.scan_of_spells h, hverify _ _, fun own passed cause => ⟨hverify _ _, hverify _ _, ?_⟩⟩
  rw [render, hroot]
  rfl

/-- Behind `%%` an exclamation mark is text, and so is a backslash before a letter or at the end. -/
theorem literal_iff_spells_mixed :
    Token.Spells "%%!\\%\\\\\\n\\".toList [] "%!%\\\\n\\".toList ∧
      (ofFormat "%%!\\%\\\\\\n\\").render .empty .empty none = .ok "%!%\\\\n\\" := by
  have h : Token.Spells ['%', '%', '!', '\\', '%', '\\', '\\', '\\', 'n', '\\'] []
      ['%', '!', '%', '\\', '\\', 'n', '\\'] :=
    .cons .doubled <| .cons (.plain rfl) <| .cons (.escaped rfl) <| .cons (.escaped rfl) <|
      .cons (.backslash (by simp [Token.isControl])) <| .cons (.plain rfl) <| .cons (.backslash (by simp)) .nil
  obtain ⟨-, -, hrender⟩ := (literal_iff_spells "%%!\\%\\\\\\n\\" "%!%\\\\n\\").2 h
  exact ⟨h, (hrender .empty .empty none).2.2⟩

end Template

end Mishap
