import GhciBridge.Proofs.Annotation.Expression
import GhciBridge.Proofs.Literal.Complete

/-!
# Literals in expressions

The scan for a separator knows of an escape only the character behind the backslash, and
of character literals nothing.  It goes through a string in which no further backslash
belongs to an escape, and through the literal of a character that is no delimiter.
-/

namespace GhciBridge

/-!
## Escapes and characters
-/

namespace Literal

namespace Piece

/-- The escapes of one character. -/
def IsEscape : Piece → Prop
  | .plain _ => False
  | .empty => False
  | .gap _ => False
  | piece => piece.IsComplete

/-- The pieces in which a backslash is found only at the beginning. -/
def IsTame : Piece → Prop
  | .caret c => IsComplete (.caret c) ∧ c ≠ '\\'
  | .gap _ => False
  | piece => piece.IsComplete

instance : DecidablePred IsTame
  | .caret c => inferInstanceAs (Decidable (IsComplete (.caret c) ∧ c ≠ '\\'))
  | .gap _ => inferInstanceAs (Decidable False)
  | .plain c => inferInstanceAs (Decidable (IsComplete (.plain c)))
  | .letter c => inferInstanceAs (Decidable (IsComplete (.letter c)))
  | .empty => inferInstanceAs (Decidable (IsComplete .empty))
  | .numeric radix digits => inferInstanceAs (Decidable (IsComplete (.numeric radix digits)))
  | .name text => inferInstanceAs (Decidable (IsComplete (.name text)))
  | .openGap inside => inferInstanceAs (Decidable (IsComplete (.openGap inside)))

end Piece

/-- The literal of a character: between single quotes stands the character itself or an
escape. -/
inductive IsCharacter : Text → Prop where
  | plain {c : Char} (hquote : c ≠ '\'') (hbackslash : c ≠ '\\') : IsCharacter ['\'', c, '\'']
  | escape {piece : Piece} (hpiece : piece.IsEscape) :
      IsCharacter ('\'' :: (piece.spelled ++ ['\'']))

theorem solid_of_figure
    {base : Nat} (hbase : base ≤ 16) {c : Char} (hc : figure c < base) :
    c ≠ ' ' ∧ c ≠ '"' ∧ c ≠ '\\' := by
  have hne : ∀ d, figure d = 16 → c ≠ d := by
    intro d hd hcd
    rw [hcd, hd] at hc
    omega
  exact ⟨hne ' ' rfl, hne '"' rfl, hne '\\' rfl⟩

/-- Behind its first two characters an escape has neither spaces nor quotes, and only one
escape has a backslash there. -/
theorem Piece.IsEscape.exists_spelled
    {piece : Piece} (h : piece.IsEscape) :
    ∃ c more, piece.spelled = '\\' :: c :: more ∧ c ≠ ' ' ∧
      ∀ d ∈ more, d ≠ ' ' ∧ d ≠ '"' ∧ (d = '\\' → piece = .caret '\\') := by
  cases piece with
  | plain c => exact h.elim
  | letter c =>
      refine ⟨c, [], rfl, ?_, List.forall_mem_nil _⟩
      intro hspace
      have hletter : c ∈ letters.map Prod.fst := h
      rw [hspace] at hletter
      exact absurd hletter (by decide)
  | empty => exact h.elim
  | caret c =>
      have hlow : 64 ≤ c.toNat := h.1
      refine ⟨'^', [c], rfl, by decide, List.forall_mem_singleton.mpr ⟨?_, ?_, ?_⟩⟩
      · intro hspace
        rw [hspace] at hlow
        exact absurd hlow (by decide)
      · intro hquote
        rw [hquote] at hlow
        exact absurd hlow (by decide)
      · intro hbackslash
        rw [hbackslash]
  | numeric radix digits =>
      have hfigures : ∀ d ∈ digits, d ≠ ' ' ∧ d ≠ '"' ∧
          (d = '\\' → Piece.numeric radix digits = .caret '\\') := by
        intro d hd
        rcases solid_of_figure radix.base_le (h.2.1 d hd) with ⟨hspace, hquote, hbackslash⟩
        exact ⟨hspace, hquote, fun hd => absurd hd hbackslash⟩
      cases radix with
      | hexadecimal => exact ⟨'x', digits, rfl, by decide, hfigures⟩
      | octal => exact ⟨'o', digits, rfl, by decide, hfigures⟩
      | decimal =>
          cases digits with
          | nil => exact absurd rfl h.1
          | cons d digits =>
              rw [List.forall_mem_cons] at hfigures
              exact ⟨d, digits, rfl, hfigures.1.1, hfigures.2⟩
  | name text =>
      have hall : (names.all fun name =>
          name ≠ [] ∧ name.all (fun d => d ≠ ' ' ∧ d ≠ '"' ∧ d ≠ '\\') = true) = true := by
        decide +kernel
      have hname := of_decide_eq_true (List.all_eq_true.mp hall text h)
      have hsolid : ∀ d ∈ text, d ≠ ' ' ∧ d ≠ '"' ∧ d ≠ '\\' := fun d hd =>
        of_decide_eq_true (List.all_eq_true.mp hname.2 d hd)
      cases text with
      | nil => exact absurd rfl hname.1
      | cons c more =>
          rw [List.forall_mem_cons] at hsolid
          refine ⟨c, more, rfl, hsolid.1.1, ?_⟩
          intro d hd
          rcases hsolid.2 d hd with ⟨hspace, hquote, hbackslash⟩
          exact ⟨hspace, hquote, fun hd => absurd hd hbackslash⟩
  | gap inside => exact h.elim
  | openGap inside => exact h.elim

end Literal

/-!
## What the scan makes of them
-/

namespace Annotation

open Literal (Piece IsCharacter)

theorem StringBody.append_spelled
    {piece : Piece} (hpiece : piece.IsTame) {text : Text} (h : StringBody text) :
    StringBody (piece.spelled ++ text) := by
  have hescaped : piece.IsEscape → piece ≠ .caret '\\' → StringBody (piece.spelled ++ text) := by
    intro hescape hcaret
    rcases hescape.exists_spelled with ⟨c, more, hspelled, -, hmore⟩
    have hplain : ∀ d ∈ more, d ≠ '\\' ∧ d ≠ '"' := by
      intro d hd
      rcases hmore d hd with ⟨-, hquote, hbackslash⟩
      exact ⟨fun hd => hcaret (hbackslash hd), hquote⟩
    rw [hspelled]
    exact .escaped c (h.append_plain hplain)
  cases piece with
  | plain c => exact .plain hpiece.2 hpiece.1 h
  | letter c => exact hescaped hpiece nofun
  | empty => exact .escaped '&' h
  | caret c => exact hescaped hpiece.1 fun hcaret => hpiece.2 (Piece.caret.inj hcaret)
  | numeric radix digits => exact hescaped hpiece nofun
  | name text => exact hescaped hpiece nofun
  | gap inside => exact hpiece.elim
  | openGap inside => exact hpiece.elim

theorem isString_quoted
    {pieces : List Piece} (h : ∀ p ∈ pieces, p.IsTame) :
    IsString (Literal.quoted (Literal.spelling pieces)) := by
  refine ⟨Literal.spelling pieces, ?_, rfl⟩
  induction pieces with
  | nil => exact .nil
  | cons piece pieces ih =>
      rw [List.forall_mem_cons] at h
      rw [Literal.spelling_cons]
      exact (ih h.2).append_spelled h.1

theorem passes_solid
    {text : Text} (h : ∀ c ∈ text, c ∉ delimiters ∧ c ≠ ' ') (depth : Int) :
    Passes (nestingAt depth false) text (nestingAt depth false) := by
  induction text with
  | nil => exact Passes.nil _
  | cons c text ih =>
      rw [List.forall_mem_cons] at h
      apply Passes.cons (fun rest => not_isCut_of_ne_space h.1.2 _ _)
      rw [step_plain depth h.1.1]
      exact ih h.2

theorem isPassed_of_isCharacter
    {literal : Text} (h : IsCharacter literal) (hplain : ∀ c ∈ literal, c ∉ delimiters) :
    IsPassed literal := by
  have hsolid : (∀ c ∈ literal, c ≠ ' ') → ∀ depth,
      Passes (nestingAt depth false) literal (nestingAt depth false) := fun hspace =>
    passes_solid fun c hc => ⟨hplain c hc, hspace c hc⟩
  cases h with
  | @plain c hquote hbackslash =>
      refine ⟨⟨'\'', [c, '\''], rfl, .inr rfl⟩, fun depth => ?_⟩
      by_cases hc : c = ' '
      · -- behind the space there is no colon
        have hcut : ∀ rest, ¬ IsCut (nestingAt depth false) (' ' :: ('\'' :: rest)) [] := by
          intro rest hcut
          have hbehind := (List.cons_prefix_cons.mp hcut.followed).2
          exact absurd (List.cons_prefix_cons.mp hbehind).1 (by decide)
        rw [hc]
        apply Passes.cons (fun rest => not_isCut_of_ne_space (by decide) _ _)
        apply Passes.cons hcut
        apply Passes.cons (fun rest => not_isCut_of_ne_space (by decide) _ _)
        exact Passes.nil _
      · apply hsolid
        rw [List.forall_mem_cons, List.forall_mem_cons, List.forall_mem_singleton]
        exact ⟨by decide, hc, by decide⟩
  | @escape piece hpiece =>
      refine ⟨⟨'\'', _, rfl, .inr rfl⟩, hsolid ?_⟩
      rcases hpiece.exists_spelled with ⟨c, more, hspelled, hc, hmore⟩
      rw [hspelled, List.forall_mem_cons, List.forall_mem_append, List.forall_mem_cons,
        List.forall_mem_cons, List.forall_mem_singleton]
      exact ⟨by decide, ⟨by decide, hc, fun d hd => (hmore d hd).1⟩, by decide⟩

end Annotation
end GhciBridge
