import GhciBridge.Proofs.Annotation.Literal
import GhciBridge.Proofs.Binding.Listed

/-!
# Types of expressions

The answer to a question for a type is an entry, so it does not matter where ghci broke
it.  It comes apart where the scan for the separator stops.  The scan stops behind every
expression, unless a literal in front misleads it.
-/

namespace GhciBridge
namespace Answer

open Annotation
open Literal (IsLiteral IsCharacter Piece)

variable {expression type text : Text} {lines : List Text}

/-- A wrapped text is read as an expression and its type where it is split. -/
theorem typed?_of_wrapped
    (htext : Text.Spaced text) (herror : Diagnostic.isError text = false)
    (hlines : Entry.Wrapped text lines) :
    typed? lines = (split? text).map fun cut => (.typed cut.1 cut.2, []) := by
  have hfront : ∀ front, front <+: text → Diagnostic.isError front = false := by
    intro front hfront
    cases hreport : Diagnostic.isError front with
    | false => rfl
    | true =>
        rw [Diagnostic.isError_of_isPrefix hfront hreport] at herror
        cases herror
  have hnone := Diagnostic.anyError_eq_false (hlines.isError_of_mem htext hfront)
  have hend : ∀ line, [].head? = some line → Entry.continues line = false := nofun
  have htake := hlines.take?_append htext (List.forall_mem_nil _) hend
  rw [List.nil_append, List.append_nil] at htake
  rw [typed?, hnone, if_neg Bool.false_ne_true, htake]
  cases hsplit : split? text with
  | none => simp [hsplit]
  | some cut =>
      rcases cut with ⟨expression, type⟩
      have hparts := eq_append_of_splitFrom? hsplit
      have hexpression : text = expression ++ ' ' :: (":: ".toList ++ type) := by
        rw [hparts, List.append_assoc]
        rfl
      have htype : text = (expression ++ " ::".toList) ++ ' ' :: type := by
        rw [hparts, List.append_assoc, List.append_assoc]
        rfl
      simp [hsplit, (htext.parts hexpression).1.trim, (htext.parts htype).2.trim]

theorem typed_on_of_wrapped
    (htext : Text.Spaced text) (herror : Diagnostic.isError text = false)
    (hlines : Entry.Wrapped text lines) :
    Buffer.typed.on lines = some (some (.typed expression type), []) ↔
      split? text = some (expression, type) := by
  have hreading : Buffer.typed.on lines = some (some (.typed expression type), []) ↔
      typed? lines = some (.typed expression type, []) :=
    Buffer.Reading.on_eq_some_iff .typed
  rw [hreading, typed?_of_wrapped htext herror hlines]
  constructor
  · intro h
    rcases Option.map_eq_some_iff.mp h with ⟨⟨front, behind⟩, hcut, hpair⟩
    cases hpair
    exact hcut
  · intro h
    rw [h]
    rfl

/-- The literals that do not mislead the scan. -/
inductive IsHarmless : Text → Prop where
  | string {pieces : List Piece} (hpieces : ∀ p ∈ pieces, p.IsTame) :
      IsHarmless (Literal.quoted (Literal.spelling pieces))
  | character {literal : Text} (hcharacter : IsCharacter literal)
      (hplain : ∀ c ∈ literal, c ∉ delimiters) : IsHarmless literal

theorem IsHarmless.isPassed
    {literal : Text} (h : IsHarmless literal) :
    IsPassed literal := by
  cases h with
  | string hpieces => exact (isString_quoted hpieces).isPassed
  | character hcharacter hplain => exact isPassed_of_isCharacter hcharacter hplain

/-- An expression and its type are read from an answer wrapped at any of its spaces
exactly if the expression is level and no shorter level text in front of a separator
comes first.  That is so if the expression has no separator outside of its groups and
literals, is not about to end in one, and has only harmless literals. -/
theorem annotated_expression_read
    (hexpression : Text.Spaced expression) (htype : Text.Spaced type)
    (herror : Diagnostic.isError (expression ++ separator ++ type) = false)
    (hlines : Entry.Wrapped (expression ++ separator ++ type) lines) :
    (Buffer.typed.on lines = some (some (.typed expression type), []) ↔
      IsLevel expression ∧
        ∀ front, front ++ separator <+: expression ++ separator ++ type →
          front.length < expression.length → ¬ IsLevel front) ∧
    ∀ outline literals, Expression expression outline literals →
      (∀ l ∈ literals, IsHarmless l) → ¬ separator <:+: outline →
      ¬ " ::".toList <:+ expression →
      Buffer.typed.on lines = some (some (.typed expression type), []) := by
  have htext : Text.Spaced (expression ++ separator ++ type) := by
    have hcolons : Text.IsWord "::".toList := by decide
    have hspaced := hexpression.append (.more hcolons htype)
    rw [List.append_assoc]
    exact hspaced
  rw [typed_on_of_wrapped htext herror hlines]
  constructor
  · rw [split?_eq_some_iff]
    exact and_iff_right rfl
  · intro outline literals houtline hharmless hinside hend
    exact houtline.split?_separator_append (fun l hl => (hharmless l hl).isPassed) hinside hend type

/-- The answer for an expression with a separator in a string, broken behind the string
and behind the separator. -/
theorem broken_annotation_read :
    let expression := "f 'x' \"a \\\" :: b\" [1, 2]".toList
    Buffer.typed.on [
        "f 'x' \"a \\\" :: b\"".toList, "  [1, 2] ::".toList, " Int -> Int".toList] =
      some (some (.typed expression "Int -> Int".toList), []) ∧ IsLevel expression := by
  intro expression
  have hexpression : Text.Spaced expression := by decide +kernel
  have htype : Text.Spaced "Int -> Int".toList := by decide +kernel
  have herror : Diagnostic.isError (expression ++ separator ++ "Int -> Int".toList) = false := by
    decide +kernel
  have hlines : Entry.Wrapped (expression ++ separator ++ "Int -> Int".toList)
      ["f 'x' \"a \\\" :: b\"".toList, "  [1, 2] ::".toList, " Int -> Int".toList] :=
    .broken "f 'x' \"a \\\" :: b\"".toList "  ".toList (by decide) (by decide) <|
      .broken "[1, 2] ::".toList " ".toList (by decide) (by decide) <|
        .whole "Int -> Int".toList
  have houtline : Expression expression "f \" \" []".toList
      ["'x'".toList, "\"a \\\" :: b\"".toList] := by
    have hinner : Expression ("1, 2".toList ++ []) ("1, 2".toList ++ []) [] :=
      Expression.nil.append_plain (List.all_iff_forall_prop.mp (by decide))
    have hgroup : Expression " [1, 2]".toList " []".toList [] :=
      .plain (by decide) (.group (by decide) hinner .nil)
    have hstring := Expression.literal "\"a \\\" :: b\"".toList hgroup
    have hcharacter := Expression.literal "'x'".toList (.plain (by decide : ' ' ∉ delimiters) hstring)
    have hname : ∀ c ∈ "f ".toList, c ∉ delimiters := List.all_iff_forall_prop.mp (by decide)
    exact hcharacter.append_plain hname
  have hcharacter : IsHarmless "'x'".toList :=
    .character (.plain (by decide) (by decide)) (List.all_iff_forall_prop.mp (by decide))
  have hstring : IsHarmless "\"a \\\" :: b\"".toList := by
    have hpieces : ∀ p ∈ "a ".toList.map Piece.plain ++ .letter '"' :: " :: b".toList.map .plain,
        p.IsTame := by
      decide
    exact .string hpieces
  have hharmless : ∀ l ∈ ["'x'".toList, "\"a \\\" :: b\"".toList], IsHarmless l :=
    List.forall_mem_cons.mpr ⟨hcharacter, List.forall_mem_singleton.mpr hstring⟩
  have hread := (annotated_expression_read hexpression htype herror hlines).2 _ _ houtline hharmless
    (by decide) (by decide)
  exact ⟨hread, ((annotated_expression_read hexpression htype herror hlines).1.mp hread).1⟩

/-- The quote in the literal of a character is taken for the beginning of a string. -/
theorem quote_character_misleads :
    let literal := "'\"'".toList
    let answer := literal ++ separator ++ "Char".toList
    IsCharacter literal ∧ Expression literal ['"'] [literal] ∧ ¬ separator <:+: ['"'] ∧
      ¬ " ::".toList <:+ literal ∧ Text.Spaced literal ∧ Diagnostic.isError answer = false ∧
      Entry.Wrapped answer [answer] ∧ Buffer.typed.on [answer] = some (none, [answer]) := by
  intro literal answer
  have hanswer : Text.Spaced answer := by decide +kernel
  have herror : Diagnostic.isError answer = false := by decide +kernel
  have hread : typed? [answer] = none := by
    have hsplit : split? answer = none := by decide
    rw [typed?_of_wrapped hanswer herror (.whole answer), hsplit]
    rfl
  have hbuffer := Buffer.Reading.on_eq .typed [answer]
  rw [Buffer.Reading.reader, hread] at hbuffer
  exact ⟨.plain (by decide) (by decide), .literal literal .nil, by decide, by decide,
    by decide +kernel, herror, .whole answer, hbuffer⟩

end Answer
end GhciBridge
