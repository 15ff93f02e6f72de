import GhciBridge.Exchange.Basic
import GhciBridge.Proofs.Wire.Stream

/-!
# Answers on the wire

An interpreter that ends its answer with the sentinel on the last line, and
prints the sentinel nowhere else, is understood exactly: its lines arrive without
their line ends, the text in front of the sentinel without the decorations of the
prompt, and after the one prompt nothing is left over.  An interpreter that never
prints the sentinel is understood to say nothing but lines.
-/

namespace GhciBridge

/-- A sentinel that a line can hold. -/
structure IsMark (sentinel : Text) : Prop where
  nonempty : sentinel ≠ []
  lineBreak : '\n' ∉ sentinel
  carriageReturn : '\r' ∉ sentinel

/-- The lines of an answer, given the text in front of the sentinel. -/
def answerLines (text : Text) : List Text :=
  (Lines.cut '\n' text).1.map Event.dropLineEnd ++ Event.beforePrompt (Lines.cut '\n' text).2

/-!
## Line ends
-/

namespace Event

theorem dropLineEnd_isPrefix
    (line : Text) :
    dropLineEnd line <+: line := by
  have hsuffix := List.dropWhile_suffix (fun c => c == '\r' || c == '\n') (l := line.reverse)
  rw [dropLineEnd, ← List.reverse_suffix, List.reverse_reverse]
  exact hsuffix

theorem dropLineEnd_terminated
    {sentinel : Text} (hmark : IsMark sentinel) (before : Text) :
    dropLineEnd (before ++ sentinel ++ ['\n']) = before ++ sentinel := by
  rcases List.eq_nil_or_concat sentinel with hnil | ⟨front, c, hconcat⟩
  · exact absurd hnil hmark.nonempty
  · have hmem : c ∈ sentinel := by
      rw [hconcat, List.concat_eq_append]
      exact List.mem_append_right front List.mem_cons_self
    have hbreak : c ≠ '\n' := by
      rintro rfl
      exact hmark.lineBreak hmem
    have hreturn : c ≠ '\r' := by
      rintro rfl
      exact hmark.carriageReturn hmem
    simp [dropLineEnd, hconcat, hbreak, hreturn]

theorem infix_of_prompt_mem
    {sentinel line : Text} (hprompt : prompt ∈ classify sentinel line) :
    sentinel <:+: line :=
  (prompt_mem_classify_iff.mp hprompt).trans (dropLineEnd_isPrefix line).isInfix

theorem classify_quiet
    {sentinel line : Text} (hquiet : ¬ sentinel <:+: line) :
    classify sentinel line = [.line (dropLineEnd line)] :=
  classify_of_absent fun h => hquiet (h.trans (dropLineEnd_isPrefix line).isInfix)

theorem flatMap_classify_quiet
    {sentinel : Text} {lines : List Text} (hquiet : ∀ line ∈ lines, ¬ sentinel <:+: line) :
    lines.flatMap (classify sentinel) = (lines.map dropLineEnd).map .line := by
  induction lines with
  | nil => rfl
  | cons line lines ih =>
      have hrest := ih fun other hother => hquiet other (List.mem_cons_of_mem line hother)
      rw [List.flatMap_cons, classify_quiet (hquiet line List.mem_cons_self), hrest]
      rfl

end Event

/-!
## Collecting lines
-/

theorem Exchange.collect_lines
    (lines : List Text) (events : List Event) :
    collect (lines.map .line ++ events) =
      (lines ++ (collect events).1, (collect events).2.1, (collect events).2.2) := by
  induction lines with
  | nil => rfl
  | cons line lines ih =>
      rw [List.map_cons, List.cons_append, collect, ih]
      rfl

/-!
## Texts with and without the sentinel
-/

theorem cut_prompted
    {sentinel : Text} (hmark : IsMark sentinel) (text : Text) :
    Lines.cut '\n' (text ++ sentinel ++ ['\n']) =
      ((Lines.cut '\n' text).1 ++ [(Lines.cut '\n' text).2 ++ sentinel ++ ['\n']], []) := by
  have hlast : '\n' ∉ (Lines.cut '\n' text).2 ++ sentinel := by
    rw [List.mem_append, not_or]
    exact ⟨Lines.notMem_cut_snd '\n' text, hmark.lineBreak⟩
  rw [List.append_assoc, Lines.cut_append, ← List.append_assoc, Lines.cut_terminated hlast]
  rfl

/-- The events of text that ends in the first sentinel it has. -/
theorem events_of_prompted
    {sentinel text : Text} (hmark : IsMark sentinel)
    (hfirst : ¬ sentinel <:+: text ++ sentinel.dropLast) :
    (Lines.cut '\n' (text ++ sentinel ++ ['\n'])).1.flatMap (Event.classify sentinel) =
        (answerLines text).map .line ++ [.prompt] ∧
      (Lines.cut '\n' (text ++ sentinel ++ ['\n'])).2 = [] := by
  have hquiet : ∀ line ∈ (Lines.cut '\n' text).1, ¬ sentinel <:+: line := by
    intro line hline hheld
    have hfront : text <+: text ++ sentinel.dropLast := List.prefix_append text _
    exact hfirst ((hheld.trans (Lines.infix_of_mem_cut hline)).trans hfront.isInfix)
  have hfirst' : ¬ sentinel <:+: (Lines.cut '\n' text).2 ++ sentinel.dropLast := by
    intro hheld
    have hsuffix : (Lines.cut '\n' text).2 ++ sentinel.dropLast <:+ text ++ sentinel.dropLast :=
      List.suffix_append_self_iff.mpr (Lines.suffix_cut '\n' text)
    exact hfirst (hheld.trans hsuffix.isInfix)
  have hline : Event.dropLineEnd ((Lines.cut '\n' text).2 ++ sentinel ++ ['\n']) =
      (Lines.cut '\n' text).2 ++ sentinel ++ [] := by
    rw [Event.dropLineEnd_terminated hmark, List.append_nil]
  have hprompt := Event.classify_of_first hmark.nonempty hline hfirst'
  rw [cut_prompted hmark]
  refine ⟨?_, rfl⟩
  rw [List.flatMap_append, List.flatMap_singleton, Event.flatMap_classify_quiet hquiet, hprompt,
    answerLines, List.map_append, List.append_assoc]

/-- Text that does not hold the sentinel gives no prompt, not even by the line
that is not complete. -/
theorem prompt_notMem_of_quiet
    {sentinel text : Text} (hquiet : ¬ sentinel <:+: text) :
    .prompt ∉ (Lines.cut '\n' text).1.flatMap (Event.classify sentinel) ∧
      .prompt ∉ Event.classify sentinel (Lines.cut '\n' text).2 := by
  constructor
  · rw [List.mem_flatMap]
    rintro ⟨line, hline, hprompt⟩
    exact hquiet ((Event.infix_of_prompt_mem hprompt).trans (Lines.infix_of_mem_cut hline))
  · intro hprompt
    exact hquiet
      ((Event.infix_of_prompt_mem hprompt).trans (Lines.suffix_cut '\n' text).isInfix)

end GhciBridge
