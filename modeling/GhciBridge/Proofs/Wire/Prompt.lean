import GhciBridge.Proofs.Text.Search
import GhciBridge.Wire.Event

/-!
# Where an answer ends

A line ends an answer if the sentinel occurs in it.  The first occurrence
counts: the text in front of it is output, and the text behind it is lost.  So
the sentinel ends an answer where it stands at the end of a line, and also where
a printed value merely mentions it.
-/

namespace GhciBridge
namespace Event

/-- The lines that the text in front of a prompt amounts to: itself without the
decorations of the prompt, or none if nothing but blanks is left. -/
def beforePrompt (text : Text) : List Text :=
  let text := undecorated text
  if Text.allBlank text then [] else [text]

theorem classify_of_breakOn?
    {sentinel line before after : Text}
    (h : Text.breakOn? sentinel (dropLineEnd line) = some (before, after)) :
    classify sentinel line = (beforePrompt before).map .line ++ [.prompt] := by
  rw [classify, h]
  by_cases hblank : Text.allBlank (undecorated before) = true
  · simp [beforePrompt, hblank]
  · simp [beforePrompt, hblank]

theorem classify_of_absent
    {sentinel line : Text} (h : ¬ sentinel <:+: dropLineEnd line) :
    classify sentinel line = [.line (dropLineEnd line)] := by
  rw [classify, Text.breakOn?_eq_none_iff.mpr h]

theorem prompt_mem_classify_iff
    {sentinel line : Text} :
    prompt ∈ classify sentinel line ↔ sentinel <:+: dropLineEnd line := by
  constructor
  · intro hmem
    by_contra hnot
    rw [classify_of_absent hnot] at hmem
    simp at hmem
  · intro hheld
    cases hcut : Text.breakOn? sentinel (dropLineEnd line) with
    | none => exact absurd hheld (Text.breakOn?_eq_none_iff.mp hcut)
    | some cut =>
        rw [classify_of_breakOn? hcut]
        simp

theorem classify_of_first
    {sentinel line before after : Text} (hsentinel : sentinel ≠ [])
    (hline : dropLineEnd line = before ++ sentinel ++ after)
    (hfirst : ¬ sentinel <:+: before ++ sentinel.dropLast) :
    classify sentinel line = (beforePrompt before).map .line ++ [.prompt] := by
  apply classify_of_breakOn?
  rw [hline]
  exact Text.breakOn?_append after hsentinel hfirst

/-!
## The end of a line and the end of an answer
-/

/-- A line ends an answer if it ends in the sentinel, and is output as a whole
if the sentinel stands in its middle only. -/
def EndsAnswerAtEnd (sentinel line : Text) : Prop :=
  (prompt ∈ classify sentinel line ↔ sentinel <:+ dropLineEnd line) ∧
    (sentinel <:+: dropLineEnd line → ¬ sentinel <:+ dropLineEnd line →
      classify sentinel line = [.line (dropLineEnd line)])

theorem endsAnswerAtEnd_iff
    {sentinel line : Text} :
    EndsAnswerAtEnd sentinel line ↔
      (sentinel <:+: dropLineEnd line → sentinel <:+ dropLineEnd line) := by
  constructor
  · intro hlaw hheld
    exact hlaw.1.mp (prompt_mem_classify_iff.mpr hheld)
  · intro hend
    constructor
    · rw [prompt_mem_classify_iff]
      exact ⟨hend, List.IsSuffix.isInfix⟩
    · intro hheld hnot
      exact absurd (hend hheld) hnot

/-- Exactly the lines that hold the sentinel end an answer, and what counts as
output is the text in front of its first occurrence.  So lines end answers by
their ends exactly if no line holds the sentinel elsewhere only. -/
theorem prompt_at_first_sentinel
    (sentinel line : Text) :
    (prompt ∈ classify sentinel line ↔ sentinel <:+: dropLineEnd line) ∧
      (∀ before after,
        dropLineEnd line = before ++ sentinel ++ after →
          ¬ sentinel <:+: before ++ sentinel.dropLast →
            classify sentinel line = (beforePrompt before).map .line ++ [.prompt]) ∧
      (¬ sentinel <:+: dropLineEnd line →
        classify sentinel line = [.line (dropLineEnd line)]) ∧
      (EndsAnswerAtEnd sentinel line ↔
        (sentinel <:+: dropLineEnd line → sentinel <:+ dropLineEnd line)) := by
  refine ⟨prompt_mem_classify_iff, ?_, classify_of_absent, endsAnswerAtEnd_iff⟩
  intro before after hline hfirst
  have hsentinel : sentinel ≠ [] := by
    rintro rfl
    exact hfirst List.nil_infix
  exact classify_of_first hsentinel hline hfirst

/-- A value that mentions the sentinel ends an answer, and what is printed behind
the sentinel is lost. -/
theorem sentinel_in_middle_ends_answer :
    let sentinel := "<<ghci-debugger>>".toList
    let line := "a <<ghci-debugger>> b\n".toList
    classify sentinel line = [.line "a ".toList, .prompt] ∧
      ¬ sentinel <:+ dropLineEnd line ∧ ¬ EndsAnswerAtEnd sentinel line := by
  intro sentinel line
  have hsuffix : ¬ sentinel <:+ dropLineEnd line := by decide
  refine ⟨by decide, hsuffix, ?_⟩
  intro hlaw
  exact hsuffix (hlaw.1.mp (by decide))

end Event
end GhciBridge
