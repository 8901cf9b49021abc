import Mishap.Proofs.Template.Rendering
import Mishap.Proofs.Template.RoundTrip

/-!
Composing templates: a conditional between two format strings. Reading is not compositional in general, since a
backslash at the end of a format string escapes what comes behind it and text joins text. Main statement: at a control
sequence, format strings that are read without a problem compose, and so do their messages.
-/

namespace Mishap

/-! ### Lexemes of texts one behind the other -/

namespace Token

/-- Whether the last character is a backslash that no backslash before it escapes. -/
def endsInBackslash (text : List Char) : Bool := text.foldl (fun lone c => !lone && c == '\\') false

theorem endsInBackslash_cons {c : Char} (h : c ≠ '\\') (text : List Char) :
    endsInBackslash (c :: text) = endsInBackslash text := by
  have hc : (c == '\\') = false := beq_false_of_ne h
  rw [endsInBackslash, List.foldl_cons, hc]
  rfl

theorem endsInBackslash_escaped (c : Char) (text : List Char) :
    endsInBackslash ('\\' :: c :: text) = endsInBackslash text := by
  rw [endsInBackslash, List.foldl_cons, List.foldl_cons]
  rfl

theorem append_ne_cons {c : Char} {text : List Char} (hne : text ≠ []) (h : ∀ tail, text ≠ c :: tail)
    (rest : List Char) : ∀ tail, text ++ rest ≠ c :: tail := by
  cases text with
  | nil => exact absurd rfl hne
  | cons first text =>
    rintro tail ⟨⟩
    exact h text rfl

/-- Lexemes of a text stay what they are before other text, unless the last one is a lone backslash or the opening of a
field. -/
theorem lexemes_append {text : List Char} (hlone : endsInBackslash text = false)
    (hfield : ∀ scope, .mark (.field scope) ∉ (lexemes text).getLast?) (rest : List Char) :
    lexemes (text ++ rest) = lexemes text ++ lexemes rest := by
  have hbehind {part : Lexeme} {parts : List Lexeme}
      (h : ∀ scope, .mark (.field scope) ∉ (part :: parts).getLast?) :
      ∀ scope, .mark (.field scope) ∉ parts.getLast? := by
    intro scope hmem
    apply h scope
    rw [List.getLast?_cons, hmem]
    rfl
  -- only a backslash and the sigil of a field look at what is behind them, which may be `rest` at the end of the text
  fun_induction lexemes text with
  | case1 => rfl
  | case2 c tail hc ih =>
    rw [endsInBackslash_escaped] at hlone
    rw [List.cons_append, List.cons_append, lexemes_escaped hc, ih hlone (hbehind hfield)]
    rfl
  | case3 c tail hc ih =>
    have hbackslash : c ≠ '\\' := by
      rintro rfl
      exact hc rfl
    rw [endsInBackslash_escaped, ← endsInBackslash_cons hbackslash] at hlone
    rw [List.cons_append, List.cons_append, lexemes, if_neg hc, ← List.cons_append, ih hlone (hbehind hfield)]
    rfl
  | case4 tail ih | case5 tail ih | case6 tail ih | case7 tail ih | case8 tail ih =>
    rw [endsInBackslash_cons (by decide), endsInBackslash_cons (by decide)] at hlone
    rw [List.cons_append, List.cons_append, lexemes, ih hlone (hbehind hfield)]
    rfl
  | case9 tail hpercent hbang hw ih =>
    rw [endsInBackslash_cons (by decide)] at hlone
    have htail : tail ≠ [] := by
      rintro rfl
      exact hfield .own rfl
    rw [List.cons_append, lexemes, ih hlone (hbehind hfield)]
    · rfl
    · exact append_ne_cons htail hpercent rest
    · exact append_ne_cons htail hbang rest
    · exact append_ne_cons htail hw rest
  | case10 tail hbang hw ih =>
    rw [endsInBackslash_cons (by decide)] at hlone
    have htail : tail ≠ [] := by
      rintro rfl
      exact hfield .passed rfl
    rw [List.cons_append, lexemes, ih hlone (hbehind hfield)]
    · rfl
    · exact append_ne_cons htail hbang rest
    · exact append_ne_cons htail hw rest
  | case11 tail ih | case12 tail ih =>
    rw [endsInBackslash_cons (by decide)] at hlone
    rw [List.cons_append, lexemes, ih hlone (hbehind hfield)]
    rfl
  | case13 c tail hescape _ _ _ _ _ hpercent hdollar hopen hclose ih =>
    have hbackslash : c ≠ '\\' := by
      rintro rfl
      cases tail with
      | nil => cases hlone
      | cons first tail => exact hescape first tail rfl rfl
    have hcontrol : isControl c = false := by
      simp only [isControl, Bool.or_eq_false_iff, beq_eq_false_iff_ne]
      exact ⟨⟨⟨⟨hpercent, hdollar⟩, hopen⟩, hclose⟩, hbackslash⟩
    rw [endsInBackslash_cons hbackslash] at hlone
    rw [List.cons_append, lexemes_of_not_control hcontrol, ih hlone (hbehind hfield)]
    rfl

/-- At a control sequence text ends. -/
theorem kinds_append_mark (pending : List Char) (parts : List Lexeme) (m : Mark) (rest : List Lexeme) :
    kinds pending (parts ++ .mark m :: rest) = kinds pending parts ++ .mark m :: kinds [] rest := by
  induction parts generalizing pending with
  | nil => rfl
  | cons part parts ih =>
    cases part with
    | literal c width => exact ih (pending ++ [c])
    | mark other => rw [List.cons_append, kinds, kinds, ih, List.append_assoc, List.cons_append]

theorem getLast?_kinds {pending : List Char} {parts : List Lexeme} {m : Mark} (h : .mark m ∈ parts.getLast?) :
    .mark m ∈ (kinds pending parts).getLast? := by
  obtain ⟨front, rfl⟩ := List.getLast?_eq_some_iff.1 h
  rw [kinds_append_mark]
  exact List.getLast?_concat

/-- Whether a text needs no backslash. -/
def isUnescaped (text : List Char) : Bool := text.all fun c => !isControl c

theorem escape_of_isUnescaped {text : List Char} (h : isUnescaped text) : escape text = text := by
  induction text with
  | nil => rfl
  | cons c text ih =>
    rw [isUnescaped, List.all_cons, Bool.and_eq_true, Bool.not_eq_true'] at h
    rw [escape_cons_of_not_control h.1, ih h.2]

end Token

/-! ### Spans and messages -/

namespace Node

theorem renderItems_map_bare {setting : Setting} {nodes : List Node}
    (h : ∀ node ∈ nodes, node.bare.render setting = node.render setting) :
    renderItems setting (nodes.map bare) = renderItems setting nodes := by
  rw [renderItems_eq_joined, renderItems_eq_joined, List.map_map]
  congr 1
  exact List.map_congr_left h

/-- Spans leave no trace in the message. -/
theorem render_bare (setting : Setting) (node : Node) : node.bare.render setting = node.render setting := by
  induction node with
  | list items ih => rw [bare, bareItems_eq_map, render, render, renderItems_map_bare ih]
  | conditional guard body ih =>
    rw [bare, render, render, ih]
    rfl
  | _ => rfl

theorem renderItems_congr_bare (setting : Setting) {nodes others : List Node}
    (h : nodes.map bare = others.map bare) : renderItems setting nodes = renderItems setting others := by
  have hbare (nodes : List Node) : renderItems setting (nodes.map bare) = renderItems setting nodes :=
    renderItems_map_bare fun node _ => render_bare setting node
  rw [← hbare nodes, h, hbare others]

end Node

/-! ### Texts of conditions -/

theorem isUnescaped_of_isMapSelector {name : List Char} (h : isMapSelector (String.ofList name)) :
    Token.isUnescaped name := by
  have hselectors : mapSelectors.all (fun selector => Token.isUnescaped selector.toList) = true := rfl
  have hmem : String.ofList name ∈ mapSelectors := List.contains_iff_mem.1 h
  have hname := List.all_eq_true.1 hselectors (String.ofList name) hmem
  rwa [String.toList_ofList] at hname

theorem Condition.isUnescaped_of_comparison {text : List Char} {condition : Condition}
    (h : ofComparison? text = some condition) : text ≠ [] ∧ Token.isUnescaped text := by
  have hends {selector : List Char} {sign : Char} (hsign : Token.isControl sign = false)
      (hselector : isMapSelector (String.ofList selector.reverse)) (htext : text.reverse = '0' :: sign :: selector) :
      text ≠ [] ∧ Token.isUnescaped text := by
    have hsplit : text = selector.reverse ++ [sign, '0'] := by simpa using congrArg List.reverse htext
    have hends : Token.isUnescaped [sign, '0'] := by
      rw [Token.isUnescaped, List.all_cons, hsign]
      rfl
    rw [hsplit, Token.isUnescaped, List.all_append, Bool.and_eq_true]
    exact ⟨by simp, isUnescaped_of_isMapSelector hselector, hends⟩
  rw [ofComparison?] at h
  split at h
  · next selector htext => exact hends rfl (Option.ite_none_right_eq_some.1 h).1 htext
  · next selector htext => exact hends rfl (Option.ite_none_right_eq_some.1 h).1 htext
  · cases h

/-- The text of a condition needs no backslash. -/
theorem Condition.isUnescaped_of_ofText? {text : String} {condition : Condition} (h : ofText? text = some condition) :
    text ≠ "" ∧ Token.isUnescaped text.toList := by
  rw [ofText?] at h
  split_ifs at h with hempty hnonEmpty
  · rw [hempty]
    exact ⟨by decide, rfl⟩
  · rw [hnonEmpty]
    exact ⟨by decide, rfl⟩
  · obtain ⟨hne, hunescaped⟩ := isUnescaped_of_comparison h
    refine ⟨?_, hunescaped⟩
    rintro rfl
    exact hne rfl

/-- Of two conditions one holds. -/
theorem Condition.holds_of_ne {condition other : Condition} (h : other ≠ condition) (params : Params) :
    other.holds params = !condition.holds params := by
  cases condition <;> cases other <;> simp_all [holds]

/-! ### Kinds of tokens and what they read as -/

namespace Grammar

open Node (bare renderItems)
open Token (kinds lexemes)

/-- Tokens of the kinds are a sequence of the nodes, up to spans. -/
def Reads (ks : List Token.Kind) (nodes : List Node) : Prop :=
  ∀ tokens : List Token, tokens.map Token.kind = ks → ∃ read, Sequence tokens read ∧ read.map bare = nodes.map bare

theorem Reads.nil : Reads [] [] := by
  intro tokens htokens
  obtain rfl := List.map_eq_nil_iff.1 htokens
  exact ⟨[], .nil, rfl⟩

theorem Reads.append {front back : List Token.Kind} {nodes items : List Node} (hfront : Reads front nodes)
    (hback : Reads back items) : Reads (front ++ back) (nodes ++ items) := by
  intro tokens htokens
  obtain ⟨before, behind, rfl, hbefore, hbehind⟩ := List.map_eq_append_iff.1 htokens
  obtain ⟨readBefore, hreadBefore, hnodes⟩ := hfront before hbefore
  obtain ⟨readBehind, hreadBehind, hitems⟩ := hback behind hbehind
  refine ⟨readBefore ++ readBehind, hreadBefore.append hreadBehind, ?_⟩
  rw [List.map_append, List.map_append, hnodes, hitems]

theorem Reads.text (s : String) : Reads [.text s] [.literal s] := by
  intro tokens htokens
  obtain ⟨a, _, rfl, hnil⟩ := eq_cons_of_map_kind htokens
  obtain rfl := List.map_eq_nil_iff.1 hnil
  exact ⟨_, .text .nil, rfl⟩

theorem Reads.wrap (scope : Scope) (span : Span) : Reads [.mark (.wrap scope)] [.wrap scope span] := by
  intro tokens htokens
  obtain ⟨a, _, rfl, hnil⟩ := eq_cons_of_map_kind htokens
  obtain rfl := List.map_eq_nil_iff.1 hnil
  exact ⟨_, .wrap .nil, rfl⟩

theorem Reads.field (scope : Scope) (name : String) (span : Span) :
    Reads [.mark (.field scope), .mark .openBrace, .text name, .mark .closeBrace]
      [.field ⟨scope, none, name, span⟩] := by
  intro tokens htokens
  obtain ⟨a, _, rfl, hopen⟩ := eq_cons_of_map_kind htokens
  obtain ⟨b, _, rfl, htext⟩ := eq_cons_of_map_kind hopen
  obtain ⟨c, _, rfl, hclose⟩ := eq_cons_of_map_kind htext
  obtain ⟨d, _, rfl, hnil⟩ := eq_cons_of_map_kind hclose
  obtain rfl := List.map_eq_nil_iff.1 hnil
  exact ⟨_, .field .nil, rfl⟩

theorem Reads.verbField (scope : Scope) (verb name : String) (span : Span) :
    Reads [.mark (.field scope), .text verb, .mark .openBrace, .text name, .mark .closeBrace]
      [.field ⟨scope, some verb, name, span⟩] := by
  intro tokens htokens
  obtain ⟨a, _, rfl, hverb⟩ := eq_cons_of_map_kind htokens
  obtain ⟨b, _, rfl, hopen⟩ := eq_cons_of_map_kind hverb
  obtain ⟨c, _, rfl, htext⟩ := eq_cons_of_map_kind hopen
  obtain ⟨d, _, rfl, hclose⟩ := eq_cons_of_map_kind htext
  obtain ⟨e, _, rfl, hnil⟩ := eq_cons_of_map_kind hclose
  obtain rfl := List.map_eq_nil_iff.1 hnil
  exact ⟨_, .verbField .nil, rfl⟩

theorem Reads.conditional {body : List Token.Kind} {items : List Node} (hbody : Reads body items) (scope : Scope)
    (condition : String) (span : Span) :
    Reads (.mark (.guard scope) :: .text condition :: .mark .openBrace :: (body ++ [.mark .closeBrace]))
      [.conditional ⟨scope, condition, false, span⟩ (.list items)] := by
  intro tokens htokens
  obtain ⟨a, _, rfl, htext⟩ := eq_cons_of_map_kind htokens
  obtain ⟨b, _, rfl, hopen⟩ := eq_cons_of_map_kind htext
  obtain ⟨c, _, rfl, hinside⟩ := eq_cons_of_map_kind hopen
  obtain ⟨inner, behind, rfl, hinner, hbehind⟩ := List.map_eq_append_iff.1 hinside
  obtain ⟨d, _, rfl, hnil⟩ := eq_cons_of_map_kind hbehind
  obtain rfl := List.map_eq_nil_iff.1 hnil
  obtain ⟨read, hread, hitems⟩ := hbody inner hinner
  refine ⟨_, .conditional hread .nil, ?_⟩
  simp [bare, Node.bareItems_eq_map, hitems]

/-- What tokens read as depends only on their kinds. -/
theorem Sequence.reads {tokens : List Token} {nodes : List Node} (h : Sequence tokens nodes) :
    Reads (tokens.map Token.kind) nodes := by
  induction h with
  | nil => exact .nil
  | text _ ih => exact (Reads.text _).append ih
  | wrap _ ih => exact (Reads.wrap _ _).append ih
  | field _ ih => exact (Reads.field _ _ _).append ih
  | verbField _ ih => exact (Reads.verbField _ _ _ _).append ih
  | conditional _ _ ihbody ih => simpa using (ihbody.conditional _ _ _).append ih

/-- A sequence does not break off behind the opening of a field. -/
theorem Sequence.getLast?_ne_field {tokens : List Token} {nodes : List Node} (h : Sequence tokens nodes)
    (scope : Scope) : .mark (.field scope) ∉ (tokens.map Token.kind).getLast? := by
  induction h with
  | nil => simp
  | conditional _ _ _ ih => simp_all [List.getLast?_append, List.getLast?_cons, Option.getD_eq_iff]
  | _ _ ih => simp_all [List.getLast?_cons, Option.getD_eq_iff]

/-- A format string that reads as nodes has their message. -/
theorem Reads.ofFormat {format : String} {nodes : List Node} (h : Reads (kinds [] (lexemes format.toList)) nodes) :
    (Template.ofFormat format).error? = none ∧
      ∀ setting, (Template.ofFormat format).root.render setting = renderItems setting nodes := by
  obtain ⟨inner, hkinds, hscan⟩ := Token.scan_eq format
  obtain ⟨read, hread, hbare⟩ := h inner hkinds
  have hparsed := hread.ofTokens format ⟨0, 0⟩ ⟨format.utf8ByteSize, format.utf8ByteSize⟩
  rw [← hscan] at hparsed
  refine ⟨congrArg ParsedTemplate.error hparsed, fun setting => ?_⟩
  have hroot : (Template.ofFormat format).root = (Node.list read).simplify := congrArg ParsedTemplate.root hparsed
  rw [hroot, Node.render_simplify, Node.render, Node.renderItems_congr_bare setting hbare]

/-- What a format string without a problem reads as, and that it does not break off behind the opening of a field. -/
theorem exists_reads {format : String} (h : (Template.ofFormat format).error? = none) :
    ∃ nodes, Reads (kinds [] (lexemes format.toList)) nodes ∧
      ∀ scope, .mark (.field scope) ∉ (lexemes format.toList).getLast? := by
  obtain ⟨inner, nodes, hkinds, -, hinner, -⟩ := exists_sequence h
  refine ⟨nodes, hkinds ▸ hinner.reads, fun scope hlast => ?_⟩
  apply hinner.getLast?_ne_field scope
  rw [hkinds]
  exact Token.getLast?_kinds hlast

end Grammar

/-! ### Composition -/

/-- A conditional as a format string has it. -/
def guarded (scope : Scope) (condition body : String) : String :=
  scope.sigil.toString ++ "!" ++ condition ++ "\x7b" ++ body ++ "\x7d"

theorem toList_guarded (scope : Scope) (condition body : String) (behind : List Char) :
    (guarded scope condition body).toList ++ behind =
      scope.sigil :: '!' :: (condition.toList ++ '{' :: (body.toList ++ '}' :: behind)) := by
  simp [guarded]

namespace Template

open Grammar (Reads exists_reads)
open Token (kinds lexemes)
open Verb.Formatted (join)

/-- A format string without a problem before a control sequence. -/
theorem kinds_before_mark {text : String} (herror : (ofFormat text).error? = none)
    (hlone : Token.endsInBackslash text.toList = false) {m : Token.Mark} {behind rest : List Char}
    (hmark : lexemes behind = .mark m :: lexemes rest) :
    kinds [] (lexemes (text.toList ++ behind)) =
      kinds [] (lexemes text.toList) ++ .mark m :: kinds [] (lexemes rest) := by
  obtain ⟨-, -, hfield⟩ := exists_reads herror
  rw [Token.lexemes_append hlone hfield, hmark, Token.kinds_append_mark]

theorem kinds_guarded {condition : String} (hne : condition ≠ "") (hunescaped : Token.isUnescaped condition.toList)
    {body : String} (herror : (ofFormat body).error? = none) (hlone : Token.endsInBackslash body.toList = false)
    (rest : List Char) :
    kinds [] (lexemes (condition.toList ++ '{' :: (body.toList ++ '}' :: rest))) =
      .text condition :: .mark .openBrace ::
        (kinds [] (lexemes body.toList) ++ .mark .closeBrace :: kinds [] (lexemes rest)) := by
  have hcondition := Token.kinds_escape_mark (body.toList ++ '}' :: rest) hne (Token.lexemes_openBrace _)
  rw [Token.escape_of_isUnescaped hunescaped] at hcondition
  rw [hcondition, kinds_before_mark herror hlone (Token.lexemes_closeBrace rest)]

/-- A conditional between two format strings. -/
theorem composed {a b d c : String} (ha : (ofFormat a).error? = none)
    (hb : (ofFormat b).error? = none) (hd : (ofFormat d).error? = none)
    (hloneA : Token.endsInBackslash a.toList = false) (hloneB : Token.endsInBackslash b.toList = false)
    {condition : Condition} (hc : Condition.ofText? c = some condition) (scope : Scope) :
    (ofFormat (a ++ guarded scope c b ++ d)).error? = none ∧
      ∀ setting, (ofFormat (a ++ guarded scope c b ++ d)).root.render setting =
        join ((ofFormat a).root.render setting)
          (join (if condition.holds (setting.params scope) then (ofFormat b).root.render setting else .ok "")
            ((ofFormat d).root.render setting)) := by
  obtain ⟨before, hbefore, -⟩ := exists_reads ha
  obtain ⟨body, hbody, -⟩ := exists_reads hb
  obtain ⟨behind, hbehind, -⟩ := exists_reads hd
  obtain ⟨hne, hunescaped⟩ := Condition.isUnescaped_of_ofText? hc
  have hreads : Reads (kinds [] (lexemes (a ++ guarded scope c b ++ d).toList))
      (before ++ ([.conditional ⟨scope, c, false, ⟨0, 0⟩⟩ (.list body)] ++ behind)) := by
    have hchars : (a ++ guarded scope c b ++ d).toList = a.toList ++
        scope.sigil :: '!' :: (c.toList ++ '{' :: (b.toList ++ '}' :: d.toList)) := by
      rw [String.toList_append, String.toList_append, List.append_assoc, toList_guarded]
    rw [hchars, kinds_before_mark ha hloneA (Token.lexemes_guard scope _), kinds_guarded hne hunescaped hb hloneB]
    simpa using hbefore.append ((hbody.conditional scope c ⟨0, 0⟩).append hbehind)
  refine ⟨hreads.ofFormat.1, fun setting => ?_⟩
  have hshows : setting.shows ⟨scope, c, false, ⟨0, 0⟩⟩ = condition.holds (setting.params scope) := by
    rw [Setting.shows, hc]
    rfl
  rw [hreads.ofFormat.2, hbefore.ofFormat.2, hbody.ofFormat.2, hbehind.ofFormat.2, Node.renderItems_append,
    Node.renderItems_append, Node.renderItems_singleton, Node.render, hshows, Node.render]

/-- A conditional alone. -/
theorem render_guarded {b c : String} (hb : (ofFormat b).error? = none)
    (hlone : Token.endsInBackslash b.toList = false) {condition : Condition} (hc : Condition.ofText? c = some condition)
    (scope : Scope) :
    (ofFormat (guarded scope c b)).error? = none ∧
      ∀ setting, (ofFormat (guarded scope c b)).root.render setting =
        if condition.holds (setting.params scope) then (ofFormat b).root.render setting else .ok "" := by
  have hempty : (ofFormat "").error? = none := rfl
  obtain ⟨herror, hrender⟩ := composed hempty hb hempty rfl hlone hc scope
  rw [String.empty_append, String.append_empty] at herror hrender
  refine ⟨herror, fun setting => ?_⟩
  have hnothing : (ofFormat "").root.render setting = .ok "" := rfl
  rw [hrender, hnothing, Verb.Formatted.empty_join, Verb.Formatted.join_empty]

/-- One of two complementary conditionals shows its body. -/
theorem render_complementary {b c c' : String} (hb : (ofFormat b).error? = none)
    (hlone : Token.endsInBackslash b.toList = false) {condition condition' : Condition}
    (hc : Condition.ofText? c = some condition) (hc' : Condition.ofText? c' = some condition')
    (hne : condition' ≠ condition) (scope : Scope) :
    (ofFormat (guarded scope c b ++ guarded scope c' b)).error? = none ∧
      ∀ setting, (ofFormat (guarded scope c b ++ guarded scope c' b)).root.render setting =
        (ofFormat b).root.render setting := by
  obtain ⟨hsecond, hrenderSecond⟩ := render_guarded hb hlone hc' scope
  have hempty : (ofFormat "").error? = none := rfl
  obtain ⟨herror, hrender⟩ := composed hempty hb hsecond rfl hlone hc scope
  rw [String.empty_append] at herror hrender
  refine ⟨herror, fun setting => ?_⟩
  have hnothing : (ofFormat "").root.render setting = .ok "" := rfl
  rw [hrender, hrenderSecond, hnothing, Condition.holds_of_ne hne, Verb.Formatted.empty_join]
  cases condition.holds (setting.params scope) with
  | true => exact Verb.Formatted.join_empty _
  | false => exact Verb.Formatted.empty_join _

/-- A conditional between two format strings without a problem makes one without a problem, whose message is theirs
around that of the body, if the condition holds. Of two complementary conditionals with the same body exactly one shows
it. -/
theorem render_composed {a b d c : String} (ha : (ofFormat a).error? = none) (hb : (ofFormat b).error? = none)
    (hd : (ofFormat d).error? = none) (hloneA : Token.endsInBackslash a.toList = false)
    (hloneB : Token.endsInBackslash b.toList = false) {condition : Condition}
    (hc : Condition.ofText? c = some condition) (scope : Scope) :
    (ofFormat (a ++ guarded scope c b ++ d)).error? = none ∧
      (∀ own passed cause,
        (ofFormat (a ++ guarded scope c b ++ d)).render own passed cause =
          join ((ofFormat a).render own passed cause)
            (join
              (if condition.holds ((⟨own, passed, cause⟩ : Setting).params scope) then
                (ofFormat b).render own passed cause else .ok "")
              ((ofFormat d).render own passed cause))) ∧
      ∀ c' condition', Condition.ofText? c' = some condition' → condition' ≠ condition →
        (ofFormat (guarded scope c b ++ guarded scope c' b)).error? = none ∧
          ∀ own passed cause, (ofFormat (guarded scope c b ++ guarded scope c' b)).render own passed cause =
            (ofFormat b).render own passed cause := by
  obtain ⟨herror, hrender⟩ := composed ha hb hd hloneA hloneB hc scope
  refine ⟨herror, fun own passed cause => hrender ⟨own, passed, cause⟩, fun c' condition' hc' hne => ?_⟩
  obtain ⟨herror', hrender'⟩ := render_complementary hb hloneB hc hc' hne scope
  exact ⟨herror', fun own passed cause => hrender' ⟨own, passed, cause⟩⟩

/-- Behind an escaped backslash a conditional is read as one, and a lone backslash may end the whole. -/
theorem render_composed_backslashes :
    (ofFormat "x\\\\%!m=0\x7b-\x7d\\").error? = none ∧
      (ofFormat "x\\\\%!m=0\x7b-\x7d\\").render .empty .empty none = .ok "x\\-\\" ∧
      (ofFormat "%!m=0\x7b-\x7d%!m>0\x7b-\x7d").render .empty .empty none = .ok "-" := by
  have ha : (ofFormat "x\\\\").error? = none := by decide
  have hb : (ofFormat "-").error? = none := by decide
  have hd : (ofFormat "\\").error? = none := by decide
  have hc : Condition.ofText? "m=0" = some .emptyMap := by decide
  obtain ⟨herror, hrender, hcomplement⟩ := render_composed ha hb hd (by decide) (by decide) hc .own
  obtain ⟨-, hboth⟩ := hcomplement "m>0" .nonEmptyMap (by decide) (by decide)
  exact ⟨herror, hrender .empty .empty none, hboth .empty .empty none⟩

end Template

end Mishap
