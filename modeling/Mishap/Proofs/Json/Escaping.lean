import Mathlib.Data.Option.Basic
import Mishap.Json.Lexeme
import Mishap.Json.Printer
import Mishap.Proofs.Text.Digits

/-!
Texts between quotes. Main statements: what stands for a text between quotes holds neither a quote nor a backslash that
is not part of an escape, and is read as that text.
-/

namespace Mishap.Json

/-- The ways to write a character: as it is, by a backslash and one character, or by the digits of its code point. -/
inductive Written (c : Char) : List Char → Prop
  | plain (hquote : c ≠ '"') (hbackslash : c ≠ '\\') (hmore : 0x20 ≤ c.toNat) : Written c [c]
  | short {d : Char} (hd : d ≠ 'u') (h : escaped? d = some c) : Written c ['\\', d]
  | digits {a b d e : Char} (hless : c.toNat < 0x20) (h : Text.number? 16 [a, b, d, e] = some c.toNat) :
    Written c ['\\', 'u', a, b, d, e]

theorem written_escapeChar (c : Char) : Written c (escapeChar c) := by
  rw [escapeChar.eq_def]
  split
  · exact .short (by decide) rfl
  · exact .short (by decide) rfl
  · exact .short (by decide) rfl
  · exact .short (by decide) rfl
  · exact .short (by decide) rfl
  · exact .short (by decide) rfl
  · exact .short (by decide) rfl
  · next hquote hbackslash _ _ _ _ _ =>
    split
    · next hless =>
      have hcount : (Nat.toDigits 16 c.toNat).length ≤ 2 := (Nat.length_toDigits_le_iff (by decide) (by decide)).2 (by omega)
      have hsome : 0 < (Nat.toDigits 16 c.toNat).length := Nat.length_toDigits_pos
      have hread : Text.number? 16 (List.replicate (4 - (Nat.toDigits 16 c.toNat).length) '0' ++ Nat.toDigits 16 c.toNat) =
          some c.toNat := by
        rw [Text.number?_zeros (by decide), Text.number?_toDigits (by decide) (by decide)]
      dsimp only
      generalize hall : List.replicate (4 - (Nat.toDigits 16 c.toNat).length) '0' ++ Nat.toDigits 16 c.toNat = all at hread
      have hfour : all.length = 4 := by
        rw [← hall, List.length_append, List.length_replicate]
        omega
      rw [List.append_assoc, hall]
      match all, hfour with
      | [a, b, d, e], _ => exact .digits hless hread
    · next hmore => exact .plain hquote hbackslash (Nat.not_lt.1 hmore)

/-! ### Reading the inside -/

/-- A character is read as one piece, which stands for it. -/
theorem Written.exists_piece {c : Char} {written : List Char} (h : Written c written) :
    ∃ p, (∀ rest, pieces? (written ++ rest) = (pieces? rest).map (p :: ·)) ∧
      ∀ ps, joined? none (p :: ps) = (joined? none ps).map (c :: ·) := by
  cases h with
  | plain hquote hbackslash hmore =>
    refine ⟨.char c, fun rest => ?_, fun ps => rfl⟩
    have hallowed : guard (c ≠ '\\' ∧ 0x20 ≤ c.toNat) = some () := (Option.guard_eq_some' ()).2 ⟨hbackslash, hmore⟩
    rw [List.singleton_append, pieces?.eq_4 _ _ (fun _ _ _ _ _ heq => absurd heq hbackslash)
      (fun _ _ heq => absurd heq hbackslash), hallowed]
    cases pieces? rest <;> rfl
  | @short d hd h =>
    refine ⟨.char c, fun rest => ?_, fun ps => rfl⟩
    rw [List.cons_append, List.singleton_append, pieces?.eq_3 _ _ (fun _ _ _ _ _ heq => absurd heq hd), h]
    cases pieces? rest <;> rfl
  | @digits a b d e hless h =>
    refine ⟨.unit c.toNat, fun rest => ?_, fun ps => ?_⟩
    · have hread := pieces?.eq_2 a b d e rest
      rw [h] at hread
      refine hread.trans ?_
      cases pieces? rest <;> rfl
    · have hhigh : isHighUnit c.toNat = false := by
        rw [isHighUnit, decide_eq_false (by omega), Bool.false_and]
      have hlow : isLowUnit c.toNat = false := by
        rw [isLowUnit, decide_eq_false (by omega), Bool.false_and]
      rw [joined?]
      simp only [hhigh, hlow, Bool.false_eq_true, if_false, Char.ofNat_toNat]

theorem unescape?_flatMap_escapeChar (s : String) : unescape? (s.toList.flatMap escapeChar) = some s := by
  have hpieces : ∀ cs : List Char, ((pieces? (cs.flatMap escapeChar)).bind (joined? none)) = some cs := by
    intro cs
    induction cs with
    | nil => rfl
    | cons c cs ih =>
      obtain ⟨p, hp, hjoined⟩ := (written_escapeChar c).exists_piece
      rw [List.flatMap_cons, hp]
      obtain ⟨ps, hps, hrest⟩ := Option.bind_eq_some_iff.1 ih
      rw [hps, Option.map_some, Option.bind_some, hjoined, hrest, Option.map_some]
  rw [unescape?, hpieces, Option.map_some, String.ofList_toList]

end Mishap.Json
