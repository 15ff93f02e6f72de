import GhciBridge.Proofs.Span.Layout
import GhciBridge.Text.Digit

/-!
# The parts of a span

A text in one of the three layouts is a path, some runs of digits, and marks in front
of the runs.  No mark is a digit, so from its end such a text can be taken apart in one
way only, whatever stands in the path.  It is read as a span exactly if all its runs are
numerals that fit a word.  A number that is too large, or one in the digits of another
script, is not made up for by a layout in which it would be part of the path.
-/

namespace GhciBridge

/-!
## Runs of digits
-/

namespace Numeral

/-- A numeral whose value fits a signed word of 32 bits. -/
structure FitsWord (digits : Text) : Prop where
  ne_nil : digits ≠ []
  isDigit : ∀ c ∈ digits, c.isDigit = true
  lt : value digits < Nat.pow 2 31

/-- Some digits, of whatever script. -/
structure IsRun (digits : Text) : Prop where
  ne_nil : digits ≠ []
  isDecimalDigit : ∀ c ∈ digits, Text.isDecimalDigit c = true

/-- The word that a numeral stands for. -/
def word (digits : Text) : Int32 :=
  Int32.ofNat (value digits)

theorem word?_eq_some_word_iff
    {digits : Text} {n : Int32} :
    word? digits = some n ↔ FitsWord digits ∧ word digits = n := by
  rw [word?_eq_some_iff]
  constructor
  · rintro ⟨hne, hdigits, hlt, hword⟩
    exact ⟨⟨hne, hdigits, hlt⟩, hword⟩
  · rintro ⟨hfits, hword⟩
    exact ⟨hfits.ne_nil, hfits.isDigit, hfits.lt, hword⟩

theorem isDecimalDigit_of_isDigit
    {c : Char} (hc : c.isDigit = true) :
    Text.isDecimalDigit c = true := by
  rw [Char.isDigit, Bool.and_eq_true, decide_eq_true_eq, decide_eq_true_eq] at hc
  rw [Text.isDecimalDigit, Text.inRanges_iff]
  exact ⟨(0x30, 0x39), List.mem_cons_self, hc.1, hc.2⟩

theorem FitsWord.isRun
    {digits : Text} (h : FitsWord digits) :
    IsRun digits :=
  ⟨h.ne_nil, fun c hc => isDecimalDigit_of_isDigit (h.isDigit c hc)⟩

/-- A run at the end of a text is all that stands behind the last mark. -/
theorem IsRun.cut
    {digits digits' mark mark' front front' : Text} (hdigits : IsRun digits)
    (hdigits' : IsRun digits') (hmark : mark.getLast?.map Text.isDecimalDigit = some false)
    (hmark' : mark'.getLast?.map Text.isDecimalDigit = some false)
    (h : front ++ mark ++ digits = front' ++ mark' ++ digits') :
    front ++ mark = front' ++ mark' ∧ digits = digits' := by
  have hread := Text.takeWhile_reverse_of_stop hdigits.isDecimalDigit hmark front
  have hread' := Text.takeWhile_reverse_of_stop hdigits'.isDecimalDigit hmark' front'
  rw [h] at hread
  constructor
  · exact List.reverse_injective (hread.2.symm.trans hread'.2)
  · exact List.reverse_injective (hread.1.symm.trans hread'.1)

end Numeral

namespace Span

/-!
## Texts in a layout
-/

/-- A path and the runs of digits behind it, in one of the three layouts. -/
inductive Parts where
  | point (path line column : Text)
  | columns (path line column last : Text)
  | lines (path startLine startColumn endLine endColumn : Text)

namespace Parts

def path : Parts → Text
  | .point path _ _ => path
  | .columns path _ _ _ => path
  | .lines path _ _ _ _ => path

def numbers : Parts → List Text
  | .point _ line column => [line, column]
  | .columns _ line column last => [line, column, last]
  | .lines _ startLine startColumn endLine endColumn =>
      [startLine, startColumn, endLine, endColumn]

/-- The text that the parts make up. -/
def text : Parts → Text
  | .point path line column => path ++ [':'] ++ line ++ [':'] ++ column
  | .columns path line column last =>
      path ++ [':'] ++ line ++ [':'] ++ column ++ ['-'] ++ last
  | .lines path startLine startColumn endLine endColumn =>
      path ++ ":(".toList ++ startLine ++ [','] ++ startColumn ++ ")-(".toList ++
        endLine ++ [','] ++ endColumn ++ [')']

/-- The span that the parts name. -/
def span : Parts → Span
  | .point path line column =>
      ⟨path, Numeral.word line, Numeral.word column, Numeral.word line, Numeral.word column⟩
  | .columns path line column last =>
      ⟨path, Numeral.word line, Numeral.word column, Numeral.word line, Numeral.word last⟩
  | .lines path startLine startColumn endLine endColumn =>
      ⟨path, Numeral.word startLine, Numeral.word startColumn, Numeral.word endLine,
        Numeral.word endColumn⟩

def HaveRuns (parts : Parts) : Prop :=
  ∀ number ∈ parts.numbers, Numeral.IsRun number

/-- Parts that a span can be made of. -/
structure Fit (parts : Parts) : Prop where
  path : IsPath parts.path
  numbers : ∀ number ∈ parts.numbers, Numeral.FitsWord number

theorem Fit.haveRuns
    {parts : Parts} (h : parts.Fit) :
    parts.HaveRuns :=
  fun number hnumber => (h.numbers number hnumber).isRun

end Parts

theorem spells_iff
    {text : Text} {s : Span} :
    Spells text s ↔ ∃ parts : Parts, parts.Fit ∧ text = parts.text ∧ parts.span = s := by
  constructor
  · intro h
    cases h with
    | @point path line column l c hpath hline hcolumn =>
        rcases Numeral.word?_eq_some_word_iff.mp hline with ⟨hfitsLine, rfl⟩
        rcases Numeral.word?_eq_some_word_iff.mp hcolumn with ⟨hfitsColumn, rfl⟩
        refine ⟨.point path line column, ⟨hpath, ?_⟩, rfl, rfl⟩
        simp only [Parts.numbers, List.forall_mem_cons]
        exact ⟨hfitsLine, hfitsColumn, List.forall_mem_nil _⟩
    | @columns path line column last l c e hpath hline hcolumn hlast =>
        rcases Numeral.word?_eq_some_word_iff.mp hline with ⟨hfitsLine, rfl⟩
        rcases Numeral.word?_eq_some_word_iff.mp hcolumn with ⟨hfitsColumn, rfl⟩
        rcases Numeral.word?_eq_some_word_iff.mp hlast with ⟨hfitsLast, rfl⟩
        refine ⟨.columns path line column last, ⟨hpath, ?_⟩, rfl, rfl⟩
        simp only [Parts.numbers, List.forall_mem_cons]
        exact ⟨hfitsLine, hfitsColumn, hfitsLast, List.forall_mem_nil _⟩
    | @lines path startLine startColumn endLine endColumn l c m e hpath hstartLine hstartColumn
        hendLine hendColumn =>
        rcases Numeral.word?_eq_some_word_iff.mp hstartLine with ⟨hfitsStartLine, rfl⟩
        rcases Numeral.word?_eq_some_word_iff.mp hstartColumn with ⟨hfitsStartColumn, rfl⟩
        rcases Numeral.word?_eq_some_word_iff.mp hendLine with ⟨hfitsEndLine, rfl⟩
        rcases Numeral.word?_eq_some_word_iff.mp hendColumn with ⟨hfitsEndColumn, rfl⟩
        refine ⟨.lines path startLine startColumn endLine endColumn, ⟨hpath, ?_⟩, rfl, rfl⟩
        simp only [Parts.numbers, List.forall_mem_cons]
        exact ⟨hfitsStartLine, hfitsStartColumn, hfitsEndLine, hfitsEndColumn, List.forall_mem_nil _⟩
  · intro h
    rcases h with ⟨parts, ⟨hpath, hnumbers⟩, rfl, rfl⟩
    have hword : ∀ number ∈ parts.numbers, Numeral.word? number = some (Numeral.word number) := by
      intro number hnumber
      exact Numeral.word?_eq_some_word_iff.mpr ⟨hnumbers number hnumber, rfl⟩
    cases parts with
    | point path line column =>
        simp only [Parts.numbers, List.forall_mem_cons] at hword
        exact .point hpath hword.1 hword.2.1
    | columns path line column last =>
        simp only [Parts.numbers, List.forall_mem_cons] at hword
        exact .columns hpath hword.1 hword.2.1 hword.2.2.1
    | lines path startLine startColumn endLine endColumn =>
        simp only [Parts.numbers, List.forall_mem_cons] at hword
        exact .lines hpath hword.1 hword.2.1 hword.2.2.1 hword.2.2.2.1

/-!
## One way to take a text apart
-/

namespace Parts

variable {path line column last startLine startColumn endLine endColumn : Text}
  {path' line' column' last' startLine' startColumn' endLine' endColumn' : Text}

/-- Only the layout with two lines does not end in a digit. -/
theorem text_ne_text_lines
    {digits : Text} (hdigits : Numeral.IsRun digits) (front : Text) :
    front ++ digits ≠ (lines path startLine startColumn endLine endColumn).text := by
  intro h
  have hdigit := hdigits.isDecimalDigit _ (List.getLast_mem hdigits.ne_nil)
  have hlast := congrArg List.getLast? h
  rw [text, List.getLast?_concat, List.getLast?_append,
    List.getLast?_eq_some_getLast hdigits.ne_nil, Option.some_or, Option.some.injEq] at hlast
  rw [hlast] at hdigit
  cases hdigit

/-- The mark in front of the last number tells the other two apart. -/
theorem text_point_ne_text_columns
    (hruns : (point path line column).HaveRuns)
    (hruns' : (columns path' line' column' last').HaveRuns) :
    (point path line column).text ≠ (columns path' line' column' last').text := by
  intro h
  simp only [HaveRuns, numbers, List.forall_mem_cons] at hruns hruns'
  have hfront := (hruns.2.1.cut hruns'.2.2.1 rfl rfl h).1
  have hmarks := congrArg List.getLast? hfront
  rw [List.getLast?_concat, List.getLast?_concat] at hmarks
  cases hmarks

theorem text_point_inj
    (hruns : (point path line column).HaveRuns)
    (hruns' : (point path' line' column').HaveRuns)
    (h : (point path line column).text = (point path' line' column').text) :
    point path line column = point path' line' column' := by
  simp only [HaveRuns, numbers, List.forall_mem_cons] at hruns hruns'
  rcases hruns with ⟨hline, hcolumn, -⟩
  rcases hruns' with ⟨hline', hcolumn', -⟩
  rcases hcolumn.cut hcolumn' rfl rfl h with ⟨hfront, rfl⟩
  rcases hline.cut hline' rfl rfl (List.append_cancel_right hfront) with ⟨hpath, rfl⟩
  rw [List.append_cancel_right hpath]

theorem text_columns_inj
    (hruns : (columns path line column last).HaveRuns)
    (hruns' : (columns path' line' column' last').HaveRuns)
    (h : (columns path line column last).text = (columns path' line' column' last').text) :
    columns path line column last = columns path' line' column' last' := by
  simp only [HaveRuns, numbers, List.forall_mem_cons] at hruns hruns'
  rcases hruns with ⟨hline, hcolumn, hlast, -⟩
  rcases hruns' with ⟨hline', hcolumn', hlast', -⟩
  rcases hlast.cut hlast' rfl rfl h with ⟨hpoint, rfl⟩
  rcases hcolumn.cut hcolumn' rfl rfl (List.append_cancel_right hpoint) with ⟨hfront, rfl⟩
  rcases hline.cut hline' rfl rfl (List.append_cancel_right hfront) with ⟨hpath, rfl⟩
  rw [List.append_cancel_right hpath]

theorem text_lines_inj
    (hruns : (lines path startLine startColumn endLine endColumn).HaveRuns)
    (hruns' : (lines path' startLine' startColumn' endLine' endColumn').HaveRuns)
    (h : (lines path startLine startColumn endLine endColumn).text =
      (lines path' startLine' startColumn' endLine' endColumn').text) :
    lines path startLine startColumn endLine endColumn =
      lines path' startLine' startColumn' endLine' endColumn' := by
  simp only [HaveRuns, numbers, List.forall_mem_cons] at hruns hruns'
  rcases hruns with ⟨hstartLine, hstartColumn, hendLine, hendColumn, -⟩
  rcases hruns' with ⟨hstartLine', hstartColumn', hendLine', hendColumn', -⟩
  have hopen := List.append_cancel_right h
  rcases hendColumn.cut hendColumn' rfl rfl hopen with ⟨h₁, rfl⟩
  rcases hendLine.cut hendLine' rfl rfl (List.append_cancel_right h₁) with ⟨h₂, rfl⟩
  rcases hstartColumn.cut hstartColumn' rfl rfl (List.append_cancel_right h₂) with ⟨h₃, rfl⟩
  rcases hstartLine.cut hstartLine' rfl rfl (List.append_cancel_right h₃) with ⟨hpath, rfl⟩
  rw [List.append_cancel_right hpath]

/-- The parts of a text are determined by it. -/
theorem text_inj
    {parts others : Parts} (hruns : parts.HaveRuns) (hruns' : others.HaveRuns)
    (h : parts.text = others.text) :
    parts = others := by
  cases parts with
  | point path line column =>
      have hcolumn := hruns column (by simp [numbers])
      cases others with
      | point => exact text_point_inj hruns hruns' h
      | columns => exact absurd h (text_point_ne_text_columns hruns hruns')
      | lines => exact absurd h (text_ne_text_lines hcolumn _)
  | columns path line column last =>
      have hlast := hruns last (by simp [numbers])
      cases others with
      | point => exact absurd h.symm (text_point_ne_text_columns hruns' hruns)
      | columns => exact text_columns_inj hruns hruns' h
      | lines => exact absurd h (text_ne_text_lines hlast _)
  | lines =>
      cases others with
      | point path line column =>
          have hcolumn := hruns' column (by simp [numbers])
          exact absurd h.symm (text_ne_text_lines hcolumn _)
      | columns path line column last =>
          have hlast := hruns' last (by simp [numbers])
          exact absurd h.symm (text_ne_text_lines hlast _)
      | lines => exact text_lines_inj hruns hruns' h

end Parts

theorem read?_eq_some_iff_parts
    {text : Text} {s : Span} :
    read? text = some s ↔
      ∃ parts : Parts, parts.Fit ∧ Text.trim text = parts.text ∧ parts.span = s := by
  rw [read?_eq_some_iff, spells_iff]

/-- The spans are read from the texts in one of the three layouts whose path is not empty
and has no line break and whose numbers all fit.  The parts of such a text are
determined by it, even if digits of any script count; so if one of these numbers does not
fit, then nothing is read, as from any other text. -/
theorem read_in_one_layout
    (text : Text) :
    (∀ s : Span, read? text = some s ↔
      ∃ parts : Parts, parts.Fit ∧ Text.trim text = parts.text ∧ parts.span = s) ∧
      (∀ parts others : Parts, parts.HaveRuns → others.HaveRuns →
        Text.trim text = parts.text → Text.trim text = others.text → parts = others) ∧
      (∀ parts : Parts, parts.HaveRuns → Text.trim text = parts.text →
        (∃ number ∈ parts.numbers, ¬ Numeral.FitsWord number) → read? text = none) ∧
      ((∀ parts : Parts, parts.Fit → Text.trim text ≠ parts.text) → read? text = none) := by
  refine ⟨fun s => read?_eq_some_iff_parts, ?_, ?_, ?_⟩
  · intro parts others hruns hruns' htext htext'
    exact Parts.text_inj hruns hruns' (htext.symm.trans htext')
  · intro parts hruns htext hunfit
    rcases hunfit with ⟨number, hnumber, hunfit⟩
    cases hread : read? text with
    | none => rfl
    | some s =>
        rcases read?_eq_some_iff_parts.mp hread with ⟨others, hfit, htext', -⟩
        have hsame := Parts.text_inj hruns hfit.haveRuns (htext.symm.trans htext')
        rw [hsame] at hnumber
        exact absurd (hfit.numbers number hnumber) hunfit
  · intro hnone
    cases hread : read? text with
    | none => rfl
    | some s =>
        rcases read?_eq_some_iff_parts.mp hread with ⟨parts, hfit, htext, -⟩
        exact absurd htext (hnone parts hfit)

example :
    read? "A.hs:1:(2,3)-(4,5)".toList = some ⟨"A.hs:1".toList, 2, 3, 4, 5⟩ ∧
      read? "A.hs:1:2-٣".toList = none := by
  decide +kernel

end Span
end GhciBridge
