import GhciBridge.Proofs.Diagnostic.Warning
import GhciBridge.Proofs.Session.Refusal
import GhciBridge.Proofs.Span.Parts

/-!
# Places of diagnostics

A diagnostic begins with a span in a file of Haskell source, and a place has the same
three layouts as a span.  But a place ends at the first blank of the line.  So the
diagnostics about a file are recognised exactly if its path has no blank.  A path with a
blank hides the severity behind it: such a line means what the path alone would mean, and
an error is handed on as the value that was asked for.
-/

namespace GhciBridge

namespace Text

theorem beginsWith_append_of_mem
    {head text : Text} {c : Char} (hc : c ∈ text) (hhead : c ∉ head) (rest : Text) :
    beginsWith head (text ++ rest) = beginsWith head text := by
  rw [Bool.eq_iff_iff, beginsWith_iff, beginsWith_iff]
  constructor
  · rintro ⟨more, hmore⟩
    have hprefix : head <+: text ++ rest := ⟨more, hmore.symm⟩
    rcases List.prefix_or_prefix_of_prefix hprefix (List.prefix_append text rest) with h | h
    · rcases h with ⟨behind, hbehind⟩
      exact ⟨behind, hbehind.symm⟩
    · exact absurd (h.subset hc) hhead
  · rintro ⟨more, hmore⟩
    exact ⟨more ++ rest, by rw [hmore, List.append_assoc]⟩

/-- A text that is not solid has a first blank. -/
theorem exists_first_blank
    {text : Text} (h : ∃ c ∈ text, isBlank c = true) :
    ∃ word b rest, text = word ++ b :: rest ∧ (∀ c ∈ word, isBlank c = false) ∧
      isBlank b = true := by
  rcases h with ⟨c, hc, hblank⟩
  induction text with
  | nil => cases hc
  | cons d text ih =>
      cases hd : isBlank d with
      | true => exact ⟨[], d, text, rfl, List.forall_mem_nil _, hd⟩
      | false =>
          have hne : c ≠ d := by
            rintro rfl
            rw [hblank] at hd
            cases hd
          rcases ih (List.mem_of_ne_of_mem hne hc) with ⟨word, b, rest, rfl, hword, hb⟩
          exact ⟨d :: word, b, rest, rfl, List.forall_mem_cons.mpr ⟨hd, hword⟩, hb⟩

end Text

namespace Diagnostic

/-!
## Every span in a source file is a place
-/

theorem popNumber?_append
    {digits mark : Text} (hdigits : Numeral.IsRun digits)
    (hmark : mark.getLast?.map Text.isDecimalDigit = some false) (front : Text) :
    popNumber? (front ++ mark ++ digits).reverse = some (front ++ mark).reverse := by
  rcases hdigits with ⟨hne, hall⟩
  rw [← List.dropLast_concat_getLast hne] at hall ⊢
  have hlast := hall _ (List.mem_append_right _ (List.mem_singleton_self _))
  have hinit := (Text.takeWhile_reverse_of_stop
    (fun c hc => hall c (List.mem_append_left _ hc)) hmark front).2
  rw [← List.append_assoc, List.reverse_concat, popNumber?, if_pos hlast, hinit]

theorem popMark?_append
    (front mark : Text) :
    popMark? mark (front ++ mark).reverse = some front.reverse :=
  Span.popMark?_append front mark

theorem popPoint?_append
    {line column : Text} (hline : Numeral.IsRun line) (hcolumn : Numeral.IsRun column)
    (path : Text) :
    popPoint? (path ++ [':'] ++ line ++ [':'] ++ column).reverse = some path.reverse := by
  rw [popPoint?, popNumber?_append hcolumn rfl]
  simp only [Option.bind_eq_bind, Option.bind_some]
  rw [popMark?_append, Option.bind_some, popNumber?_append hline rfl]
  simp only [Option.bind_some]
  rw [popMark?_append]

theorem popColumns?_append
    {line column last : Text} (hline : Numeral.IsRun line) (hcolumn : Numeral.IsRun column)
    (hlast : Numeral.IsRun last) (path : Text) :
    popColumns? (path ++ [':'] ++ line ++ [':'] ++ column ++ ['-'] ++ last).reverse =
      some path.reverse := by
  rw [popColumns?, popNumber?_append hlast rfl]
  simp only [Option.bind_eq_bind, Option.bind_some]
  rw [popMark?_append, Option.bind_some, popPoint?_append hline hcolumn]

theorem popLines?_append
    {startLine startColumn endLine endColumn : Text} (hstartLine : Numeral.IsRun startLine)
    (hstartColumn : Numeral.IsRun startColumn) (hendLine : Numeral.IsRun endLine)
    (hendColumn : Numeral.IsRun endColumn) (path : Text) :
    popLines? (path ++ ":(".toList ++ startLine ++ [','] ++ startColumn ++ ")-(".toList ++
      endLine ++ [','] ++ endColumn ++ [')']).reverse = some path.reverse := by
  rw [popLines?, popMark?_append]
  simp only [Option.bind_eq_bind, Option.bind_some]
  rw [popNumber?_append hendColumn rfl]
  simp only [Option.bind_some]
  rw [popMark?_append, Option.bind_some, popNumber?_append hendLine rfl]
  simp only [Option.bind_some]
  rw [popMark?_append, Option.bind_some, popNumber?_append hstartColumn rfl]
  simp only [Option.bind_some]
  rw [popMark?_append, Option.bind_some, popNumber?_append hstartLine rfl]
  simp only [Option.bind_some]
  rw [popMark?_append]

/-- A path that names a file of Haskell source. -/
inductive IsSourceFile : Text → Prop where
  | plain {stem : Text} (hstem : stem ≠ []) : IsSourceFile (stem ++ ".hs".toList)
  | literate {stem : Text} (hstem : stem ≠ []) : IsSourceFile (stem ++ ".lhs".toList)

theorem IsSourceFile.isSource_reverse
    {path : Text} (h : IsSourceFile path) :
    isSource path.reverse = true := by
  rw [isSource, Bool.or_eq_true, List.any_eq_true]
  right
  cases h with
  | @plain stem hstem =>
      refine ⟨".hs", List.mem_cons_self, ?_⟩
      rw [popMark?_append]
      simpa using hstem
  | @literate stem hstem =>
      refine ⟨".lhs", List.mem_cons_of_mem _ List.mem_cons_self, ?_⟩
      rw [popMark?_append]
      simpa using hstem

/-- The layouts of a place are those of a span. -/
theorem isPlace_of_spells
    {text : Text} {s : Span} (h : Span.Spells text s) (hsource : IsSourceFile s.path) :
    isPlace (text ++ [':']) = true := by
  rcases Span.spells_iff.mp h with ⟨parts, hfit, rfl, rfl⟩
  have hruns := hfit.haveRuns
  have hpath := hsource.isSource_reverse
  rw [isPlace, popMark?_append, List.any_eq_true]
  cases parts with
  | point path line column =>
      simp only [Span.Parts.HaveRuns, Span.Parts.numbers, List.forall_mem_cons] at hruns
      refine ⟨popPoint?, by simp, ?_⟩
      rw [Span.Parts.text, popPoint?_append hruns.1 hruns.2.1]
      exact hpath
  | columns path line column last =>
      simp only [Span.Parts.HaveRuns, Span.Parts.numbers, List.forall_mem_cons] at hruns
      refine ⟨popColumns?, by simp, ?_⟩
      rw [Span.Parts.text, popColumns?_append hruns.1 hruns.2.1 hruns.2.2.1]
      exact hpath
  | lines path startLine startColumn endLine endColumn =>
      simp only [Span.Parts.HaveRuns, Span.Parts.numbers, List.forall_mem_cons] at hruns
      refine ⟨popLines?, by simp, ?_⟩
      rw [Span.Parts.text,
        popLines?_append hruns.1 hruns.2.1 hruns.2.2.1 hruns.2.2.2.1]
      exact hpath

/-!
## Diagnostics about a span
-/

/-- The first line of a diagnostic about a span. -/
def report (s : Span) (severity : Severity) (message : Text) : Text :=
  s.render ++ ':' :: (severity.heading ++ message)

theorem solid_of_spells
    {text : Text} {s : Span} (h : Span.Spells text s)
    (hpath : ∀ c ∈ s.path, Text.isBlank c = false) :
    ∀ c ∈ text, Text.isBlank c = false := by
  rcases Span.spells_iff.mp h with ⟨parts, hfit, rfl, rfl⟩
  have hnumber : ∀ number ∈ parts.numbers, ∀ c ∈ number, Text.isBlank c = false := by
    intro number hmem c hc
    exact Numeral.isBlank_of_isDigit ((hfit.numbers number hmem).isDigit c hc)
  cases parts with
  | point path line column =>
      simp only [Span.Parts.numbers, List.forall_mem_cons] at hnumber
      simp only [Span.Parts.text, List.forall_mem_append, List.forall_mem_singleton]
      exact ⟨⟨⟨⟨hpath, rfl⟩, hnumber.1⟩, rfl⟩, hnumber.2.1⟩
  | columns path line column last =>
      simp only [Span.Parts.numbers, List.forall_mem_cons] at hnumber
      simp only [Span.Parts.text, List.forall_mem_append, List.forall_mem_singleton]
      exact ⟨⟨⟨⟨⟨⟨hpath, rfl⟩, hnumber.1⟩, rfl⟩, hnumber.2.1⟩, rfl⟩, hnumber.2.2.1⟩
  | lines path startLine startColumn endLine endColumn =>
      simp only [Span.Parts.numbers, List.forall_mem_cons] at hnumber
      have hopen : Text.IsWord ":(".toList := by decide
      have hmiddle : Text.IsWord ")-(".toList := by decide
      rcases hnumber with ⟨hstartLine, hstartColumn, hendLine, hendColumn, -⟩
      simp only [Span.Parts.text, List.forall_mem_append, List.forall_mem_singleton]
      exact ⟨⟨⟨⟨⟨⟨⟨⟨⟨hpath, hopen.solid⟩, hstartLine⟩, rfl⟩, hstartColumn⟩, hmiddle.solid⟩,
        hendLine⟩, rfl⟩, hendColumn⟩, rfl⟩

theorem severity?_report_of_solid
    {s : Span} (hprintable : s.IsPrintable) (hsource : IsSourceFile s.path)
    (hpath : ∀ c ∈ s.path, Text.isBlank c = false) (severity : Severity) (message : Text) :
    severity? (report s severity message) = some severity := by
  have hspells := hprintable.spells_render
  refine severity?_eq_some_iff.mpr ⟨s.render ++ [':'], message, ?_, ?_, ?_⟩
  · rw [List.forall_mem_append, List.forall_mem_singleton]
    exact ⟨solid_of_spells hspells hpath, rfl⟩
  · exact isPlace_of_spells hspells hsource
  · rw [report, List.append_assoc, List.singleton_append]

theorem not_isError_of_isWarning
    {line : Text} (h : isWarning line = true) :
    isError line = false := by
  cases herror : isError line with
  | false => rfl
  | true =>
      rw [isWarning_of_isError herror] at h
      cases h

/-!
## Paths with a blank
-/

theorem IsSourceFile.getLast?_eq
    {path : Text} (h : IsSourceFile path) :
    path.getLast? = some 's' := by
  cases h with
  | plain hstem => rw [List.getLast?_append]; rfl
  | literate hstem => rw [List.getLast?_append]; rfl

/-- A severity is looked for behind the first blank only. -/
theorem severity?_cut
    {word : Text} {b : Char} (hword : ∀ c ∈ word, Text.isBlank c = false)
    (hb : Text.isBlank b = true) (rest : Text) :
    severity? (word ++ b :: rest) =
      if isPlace word then
        if Text.beginsWith " error:".toList (b :: rest) then some .error
        else if Text.beginsWith " warning:".toList (b :: rest) then some .warning
        else none
      else none := by
  have hfront : ∀ c ∈ word, (!Text.isBlank c) = true := by
    intro c hc
    rw [hword c hc]
    rfl
  have hstop : ∀ c, (b :: rest).head? = some c → (!Text.isBlank c) = false := by
    intro c hc
    cases hc
    rw [hb]
    rfl
  have hspan := Text.takeWhile_append_of_stop hfront hstop
  rw [severity?, Text.breakBlank, hspan.1, hspan.2]

/-- The last character of the path stands in none of the marks of a diagnostic, so none of
them reaches from the path into what is behind it. -/
theorem severity?_append_of_blank
    {path : Text} (hsource : IsSourceFile path) (hblank : ∃ c ∈ path, Text.isBlank c = true)
    (rest : Text) :
    severity? (path ++ rest) = severity? path := by
  have hlast := hsource.getLast?_eq
  rcases Text.exists_first_blank hblank with ⟨word, b, more, rfl, hword, hb⟩
  have hs : 's' ∈ b :: more := by
    rw [List.getLast?_append_cons] at hlast
    exact List.mem_of_getLast? hlast
  rw [List.append_assoc, List.cons_append, severity?_cut hword hb, severity?_cut hword hb,
    ← List.cons_append, Text.beginsWith_append_of_mem hs (by decide),
    Text.beginsWith_append_of_mem hs (by decide)]

theorem isError_append_of_blank
    {path : Text} (hsource : IsSourceFile path) (hblank : ∃ c ∈ path, Text.isBlank c = true)
    (rest : Text) :
    isError (path ++ rest) = isError path := by
  have hs : 's' ∈ path := List.mem_of_getLast? hsource.getLast?_eq
  rw [isError, isError, severity?_append_of_blank hsource hblank,
    Text.beginsWith_append_of_mem hs (by decide), Text.beginsWith_append_of_mem hs (by decide)]

theorem isWarning_append_of_blank
    {path : Text} (hsource : IsSourceFile path) (hblank : ∃ c ∈ path, Text.isBlank c = true)
    (rest : Text) :
    isWarning (path ++ rest) = isWarning path := by
  rw [isWarning, isWarning, severity?_append_of_blank hsource hblank]

/-!
## What is recognised
-/

/-- An error about a span is an error, and refused in place of a value, a type or
bindings; a warning about it is no error and is taken out. -/
structure IsRecognised (s : Span) (message : Text) : Prop where
  error : isError (report s .error message) = true
  warning : isError (report s .warning message) = false
  removed :
    ∀ lines, report s .warning message ∈ lines →
      report s .warning message ∈ (separate lines).1 ∧
        report s .warning message ∉ withoutWarnings lines
  refused :
    ∀ {η : Type} [Host η] (session : Session η) (query : Session.Query) (command : Command)
      (fault : Fault),
      session.command? query = some command → query.refusal? command = some fault →
      session.Hears command [report s .error message] →
      session.outcome (.query query) = .error fault

theorem mem_separate_of_isWarning
    {line : Text} {lines : List Text} (hmem : line ∈ lines) (h : isWarning line = true) :
    line ∈ (separate lines).1 ∧ line ∉ withoutWarnings lines := by
  have hkept : line ∉ withoutWarnings lines := by
    intro hkept
    rw [isWarning_of_mem_kept hkept] at h
    cases h
  have hparted := (parted_separate lines).perm.mem_iff.mpr hmem
  exact ⟨(List.mem_append.mp hparted).resolve_right hkept, hkept⟩

theorem outcome_of_isError
    {η : Type} [Host η] {session : Session η} {query : Session.Query} {command : Command}
    {fault : Fault} {line : Text} (hcommand : session.command? query = some command)
    (hfault : query.refusal? command = some fault) (hhears : session.Hears command [line])
    (h : isError line = true) :
    session.outcome (.query query) = .error fault := by
  have herror : anyError [line] = true :=
    anyError_iff.mpr ⟨line, List.mem_singleton_self line, h⟩
  have hrefuses := Session.refusesErrors_of_refusal? hcommand hfault
  rcases hhears.ask with ⟨x, hask⟩
  rw [Command.complete_of_anyError hrefuses herror] at hask
  exact (Session.query_of_no_answer hcommand hfault hask).2

theorem isRecognised_of_solid
    {s : Span} (hprintable : s.IsPrintable) (hsource : IsSourceFile s.path)
    (hpath : ∀ c ∈ s.path, Text.isBlank c = false) (message : Text) :
    IsRecognised s message := by
  have hseverity := severity?_report_of_solid hprintable hsource hpath
  have herror : isError (report s .error message) = true :=
    isError_iff.mpr (.inr (.inr (hseverity .error message)))
  have hwarning : isWarning (report s .warning message) = true :=
    decide_eq_true (hseverity .warning message)
  constructor
  · exact herror
  · exact not_isError_of_isWarning hwarning
  · intro lines hmem
    exact mem_separate_of_isWarning hmem hwarning
  · intro η _ session query command fault hcommand hfault hhears
    exact outcome_of_isError hcommand hfault hhears herror

/-- A line about a printable span goes on from its path. -/
theorem exists_report_eq
    {s : Span} (hprintable : s.IsPrintable) (severity : Severity) (message : Text) :
    ∃ rest, report s severity message = s.path ++ rest := by
  rcases hprintable.spells_render.path_isPrefix with ⟨numbers, hnumbers⟩
  rw [report, ← hnumbers, List.append_assoc]
  exact ⟨_, rfl⟩

/-- A line that is no diagnostic is shown as it is. -/
theorem complete_evaluate_of_quiet
    {line : Text} (herror : isError line = false) (hwarning : isWarning line = false)
    (printer expression : Text) :
    (Command.evaluate printer expression).complete [line] =
      some (.output (Answer.shownText [line])) := by
  have hlines : withoutWarnings [line] = [line] := by
    rw [withoutWarnings, separate_of_no_warning]
    rw [List.forall_mem_singleton]
    exact hwarning
  have hquiet : anyError [line] = false := by
    apply anyError_eq_false
    rw [List.forall_mem_singleton]
    exact herror
  rw [Command.complete, hlines, Command.read?, Answer.shown?, hquiet]
  rfl

/-- The diagnostics about a span in a source file are recognised exactly if its path has
no blank.  Otherwise a line about it is an error or a warning exactly if the path itself
is one; and if it is neither, an error is shown as the value of an expression. -/
theorem recognised_iff_solid
    {text : Text} {s : Span} (hread : Span.read? text = some s) (hsource : IsSourceFile s.path)
    (message : Text) :
    (IsRecognised s message ↔ ∀ c ∈ s.path, Text.isBlank c = false) ∧
      ((∃ c ∈ s.path, Text.isBlank c = true) →
        (∀ severity,
          isError (report s severity message) = isError s.path ∧
            isWarning (report s severity message) = isWarning s.path) ∧
        (isError s.path = false → isWarning s.path = false →
          ∀ printer expression : Text,
            (Command.evaluate printer expression).complete [report s .error message] =
              some (.output (Answer.shownText [report s .error message])))) := by
  have hprintable := Span.isPrintable_of_read? hread
  have hhidden : (∃ c ∈ s.path, Text.isBlank c = true) → ∀ severity,
      isError (report s severity message) = isError s.path ∧
        isWarning (report s severity message) = isWarning s.path := by
    intro hblank severity
    rcases exists_report_eq hprintable severity message with ⟨rest, hrest⟩
    rw [hrest]
    exact ⟨isError_append_of_blank hsource hblank rest,
      isWarning_append_of_blank hsource hblank rest⟩
  constructor
  · constructor
    · intro hrecognised c hc
      cases hblank : Text.isBlank c with
      | false => rfl
      | true =>
          -- both lines would be errors or neither
          have hlines := hhidden ⟨c, hc, hblank⟩
          have herror := hrecognised.error
          rw [(hlines .error).1, ← (hlines .warning).1, hrecognised.warning] at herror
          cases herror
    · intro hpath
      exact isRecognised_of_solid hprintable hsource hpath message
  · intro hblank
    refine ⟨hhidden hblank, ?_⟩
    intro herror hwarning printer expression
    have hlines := hhidden hblank .error
    exact complete_evaluate_of_quiet (hlines.1.trans herror) (hlines.2.trans hwarning) printer
      expression

/-- A span over two lines of a literate source. -/
theorem literate_source_recognised :
    Span.read? "A.lhs:(1,2)-(3,4)".toList = some ⟨"A.lhs".toList, 1, 2, 3, 4⟩ ∧
      IsSourceFile "A.lhs".toList ∧
      IsRecognised ⟨"A.lhs".toList, 1, 2, 3, 4⟩ " bad".toList := by
  have hread : Span.read? "A.lhs:(1,2)-(3,4)".toList = some ⟨"A.lhs".toList, 1, 2, 3, 4⟩ := by
    decide +kernel
  have hsource : IsSourceFile "A.lhs".toList :=
    @IsSourceFile.literate "A".toList (List.cons_ne_nil _ _)
  have hpath : Text.IsWord "A.lhs".toList := by decide
  exact ⟨hread, hsource, (recognised_iff_solid hread hsource _).1.mpr hpath.solid⟩

/-- With a space in the path an error is shown as a value, and a warning stays in the
answer. -/
theorem space_in_path_hides_error :
    let s : Span := ⟨"a b.hs".toList, 1, 1, 1, 1⟩
    Span.read? "a b.hs:1:1".toList = some s ∧ IsSourceFile s.path ∧
      ¬ IsRecognised s [] ∧
      isError (report s .error []) = false ∧
      withoutWarnings [report s .warning []] = [report s .warning []] ∧
      (Command.evaluate Command.defaultPrinter "x".toList).complete [report s .error []] =
        some (.output "a b.hs:1:1: error:".toList) := by
  intro s
  have hread : Span.read? "a b.hs:1:1".toList = some s := by decide +kernel
  have herror : isError (report s .error []) = false := by decide +kernel
  have hwarning : isWarning (report s .error []) = false := by decide +kernel
  have hkept : withoutWarnings [report s .warning []] = [report s .warning []] := by
    decide +kernel
  have hshown : Answer.shownText [report s .error []] = "a b.hs:1:1: error:".toList := by
    decide +kernel
  refine ⟨hread, @IsSourceFile.plain "a b".toList (List.cons_ne_nil _ _), ?_, herror, hkept, ?_⟩
  · intro hrecognised
    have h := hrecognised.error
    rw [herror] at h
    cases h
  · rw [complete_evaluate_of_quiet herror hwarning, hshown]

end Diagnostic
end GhciBridge
