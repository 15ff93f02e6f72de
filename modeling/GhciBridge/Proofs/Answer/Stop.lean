import GhciBridge.Proofs.Binding.Listed
import GhciBridge.Proofs.Span.Layout
import Mathlib.Data.List.DropRight

/-!
# Stop reports

Ghci reports a stop in one line, behind whatever the program printed and in front of
the bindings in scope.  The program may have printed such lines too, so the last one
counts; the lines of the bindings must not hold another.
-/

namespace GhciBridge

/-!
## Bindings behind a line
-/

namespace Binding

/-- Lines that are read as the given bindings to their end.  Blank lines alone are no
list of bindings. -/
structure IsBlock (bindings : List Binding) (lines : List Text) : Prop where
  read : Answer.bindings? lines = some (.bindingList bindings, [])
  lines_eq_nil : bindings = [] → lines = []

/-- The first binding of a list is read off an entry, and the others behind it. -/
theorem exists_entry_of_readAll
    {lines rest : List Text} {b : Binding} {bindings : List Binding}
    (h : readAll lines = (b :: bindings, rest)) :
    ∃ entry behind, Entry.take? (Entry.skipBlank lines) = some (entry, behind) ∧
      read? entry = some b ∧ readAll behind = (bindings, rest) := by
  cases htake : Entry.take? (Entry.skipBlank lines) with
  | none =>
      rw [Buffer.readAll_of_none htake] at h
      cases h
  | some taken =>
      rcases taken with ⟨entry, behind⟩
      rw [Buffer.readAll_of_some htake] at h
      cases hread : read? entry with
      | none =>
          rw [hread] at h
          cases h
      | some found =>
          rw [hread] at h
          cases h
          exact ⟨entry, behind, rfl, hread, rfl⟩

/-- Blank lines in front of a binding are skipped with it. -/
theorem readAll_of_skipBlank
    {lines rest : List Text} {b : Binding} {bindings : List Binding}
    (h : readAll (Entry.skipBlank lines) = (b :: bindings, rest)) :
    readAll lines = (b :: bindings, rest) := by
  have hskip : Entry.skipBlank (Entry.skipBlank lines) = Entry.skipBlank lines :=
    List.dropWhile_idempotent _ lines
  rcases exists_entry_of_readAll h with ⟨entry, behind, htake, hread, hbehind⟩
  rw [hskip] at htake
  rw [Buffer.readAll_of_some htake, hread, hbehind]

/-- The bindings of an answer are those that its lines begin with. -/
theorem readAll_of_bindings?
    {lines rest : List Text} {bindings : List Binding}
    (h : Answer.bindings? lines = some (.bindingList bindings, rest)) :
    readAll (Entry.skipBlank lines) = (bindings, rest) := by
  unfold Answer.bindings? at h
  rw [Option.ite_none_left_eq_some] at h
  generalize readAll (Entry.skipBlank lines) = read at h
  rcases read with ⟨found, behind⟩
  have hfound := (Option.ite_none_left_eq_some.mp h.2).2
  cases hfound
  rfl

theorem IsBlock.readAll_eq
    {bindings : List Binding} {lines : List Text} (h : IsBlock bindings lines) :
    readAll lines = (bindings, []) := by
  cases bindings with
  | nil =>
      rw [h.lines_eq_nil rfl]
      exact Buffer.readAll_of_none rfl
  | cons b bindings => exact readAll_of_skipBlank (readAll_of_bindings? h.read)

theorem Listed.isBlock
    {bindings : List Binding} {lines : List Text} (h : Listed bindings lines)
    (hbindings : ∀ b ∈ bindings, b.Wrappable) :
    IsBlock bindings lines := by
  constructor
  · have herror := Diagnostic.anyError_eq_false (h.isError_of_mem hbindings)
    rw [Answer.bindings?, herror, h.skipBlank_eq hbindings, h.readAll_eq hbindings,
      if_neg Bool.false_ne_true]
    exact if_neg fun hrest => hrest.1 rfl
  · intro hnil
    cases h with
    | nil => rfl
    | single hlines => cases hnil
    | more hlines hblanks hrest => cases hnil

end Binding

namespace Answer

/-!
## The lines
-/

/-- The lines in which ghci reports that it stopped at a span. -/
inductive StopLine (span : Span) : Text → Prop where
  | bare : StopLine span ("Stopped at ".toList ++ span.render)
  /-- A function has any name without a comma. -/
  | inFunction {function : Text} (hfunction : function ≠ []) (hcomma : ',' ∉ function) :
      StopLine span ("Stopped in ".toList ++ function ++ ", ".toList ++ span.render)

/-- The line in which ghci reports a step of the history. -/
def loggedHeading (span : Span) : Text :=
  "Logged breakpoint at ".toList ++ span.render

section Reports

variable {span : Span}

theorem trim_append_render
    (hspan : span.IsPrintable) {head : Text} (hne : head ≠ [])
    (hhead : Text.startsBlank head = false) :
    Text.trim (head ++ span.render) = head ++ span.render := by
  have hspells := hspan.spells_render
  exact Text.trim_append hne hhead hspells.ne_nil hspells.startsBlank_reverse

theorem read?_onOneLine
    (hspan : span.IsPrintable) :
    (onOneLine? span.render).bind Span.read? = some span := by
  have hspells := hspan.spells_render
  rw [onOneLine?, if_pos ⟨hspells.ne_nil, hspells.newline_notMem⟩]
  exact hspan.read?_render

theorem loggedReport?_heading
    (hspan : span.IsPrintable) :
    loggedReport? (loggedHeading span) = some span := by
  unfold loggedReport? loggedHeading
  rw [trim_append_render hspan (by decide) (by decide), Text.afterPrefix?_append]
  exact read?_onOneLine hspan

theorem stopReport?_bare
    (hspan : span.IsPrintable) :
    stopReport? ("Stopped at ".toList ++ span.render) = some span := by
  have hhead : "Stopped at ".toList = "Stopped ".toList ++ "at ".toList := by decide
  rw [stopReport?, trim_append_render hspan (by decide) (by decide), hhead, List.append_assoc,
    Text.afterPrefix?_append, Option.bind_eq_bind, Option.bind_some, Text.afterPrefix?_append]
  exact read?_onOneLine hspan

/-- The name of the function ends at the first comma, and the path may hold more of
them. -/
theorem stopReport?_inFunction
    (hspan : span.IsPrintable) {function : Text} (hfunction : function ≠ [])
    (hcomma : ',' ∉ function) :
    stopReport? ("Stopped in ".toList ++ function ++ ", ".toList ++ span.render) =
      some span := by
  have hhead : "Stopped in ".toList = "Stopped ".toList ++ "in ".toList := by decide
  have htrim : Text.trim ("Stopped in ".toList ++ function ++ ", ".toList ++ span.render) =
      "Stopped ".toList ++ ("in ".toList ++ (function ++ [','] ++ ([' '] ++ span.render))) := by
    rw [trim_append_render hspan (by simp) (by simp [Text.startsBlank, Text.isBlank]), hhead]
    simp
  have hat : Text.afterPrefix? "at ".toList
      ("in ".toList ++ (function ++ [','] ++ ([' '] ++ span.render))) = none := by
    exact if_neg (by decide)
  have hbreak : Text.breakOn? [','] (function ++ [','] ++ ([' '] ++ span.render)) =
      some (function, [' '] ++ span.render) := by
    apply Text.breakOn?_append _ (List.cons_ne_nil _ _)
    rw [List.dropLast_singleton, List.append_nil, List.singleton_infix_iff]
    exact hcomma
  rw [stopReport?, htrim, Text.afterPrefix?_append, Option.bind_eq_bind, Option.bind_some]
  simp only [hat, Text.afterPrefix?_append, Option.bind_eq_bind, Option.bind_some, hbreak,
    if_neg hfunction]
  exact read?_onOneLine hspan

theorem StopLine.stopReport?_eq
    {line : Text} (h : StopLine span line) (hspan : span.IsPrintable) :
    stopReport? line = some span := by
  cases h with
  | bare => exact stopReport?_bare hspan
  | inFunction hfunction hcomma => exact stopReport?_inFunction hspan hfunction hcomma

theorem loggedReport?_of_stopReport?
    {line : Text} (h : stopReport? line = some span) :
    loggedReport? line = none := by
  simp only [stopReport?, Option.bind_eq_bind, Option.bind_eq_some_iff] at h
  rcases h with ⟨rest, hrest, -⟩
  rw [loggedReport?, Text.afterPrefix?_eq_some_iff.mp hrest]
  rfl

theorem stopReport?_of_loggedReport?
    {line : Text} (h : loggedReport? line = some span) :
    stopReport? line = none := by
  simp only [loggedReport?, Option.bind_eq_bind, Option.bind_eq_some_iff] at h
  rcases h with ⟨rest, hrest, -⟩
  have hline := Text.afterPrefix?_eq_some_iff.mp hrest
  rw [stopReport?, hline]
  rfl

theorem not_allBlank_of_stopReport?
    {line : Text} (h : stopReport? line = some span) :
    Text.allBlank line = false := by
  cases hblank : Text.allBlank line with
  | false => rfl
  | true =>
      rw [Buffer.stopReport?_of_allBlank hblank] at h
      cases h

theorem not_allBlank_loggedHeading
    (span : Span) :
    Text.allBlank (loggedHeading span) = false := by
  have hhead : "Logged breakpoint at ".toList ≠ [] := by decide
  have hstart : Text.startsBlank "Logged breakpoint at ".toList = false := by decide
  apply Text.not_allBlank (List.append_ne_nil_of_left_ne_nil hhead _)
  rw [Text.startsBlank_append hhead, hstart]

end Reports

/-!
## The last stop
-/

section LastStop

variable {span : Span} {stop : Text} {lines : List Text}

theorem lastStop?_eq_none
    (hlines : ∀ line ∈ lines, stopReport? line = none) :
    lastStop? lines = none := by
  induction lines with
  | nil => rfl
  | cons line lines ih =>
      rw [List.forall_mem_cons] at hlines
      rw [lastStop?, ih hlines.2, hlines.1]
      rfl

theorem lastStop?_eq_none_iff :
    lastStop? lines = none ↔ ∀ line ∈ lines, stopReport? line = none := by
  constructor
  · intro h
    induction lines with
    | nil => exact List.forall_mem_nil _
    | cons line lines ih =>
        rw [lastStop?] at h
        split at h
        · cases h
        · next hrest =>
            exact List.forall_mem_cons.mpr ⟨Option.map_eq_none_iff.mp h, ih hrest⟩
  · exact lastStop?_eq_none

theorem stopped?_eq_none_iff :
    stopped? lines = none ↔ ∀ line ∈ lines, stopReport? line = none := by
  rw [stopped?, Option.map_eq_none_iff]
  exact lastStop?_eq_none_iff

/-- What is printed in front of the last report is of no account. -/
theorem lastStop?_append
    (hstop : stopReport? stop = some span) (hlines : ∀ line ∈ lines, stopReport? line = none)
    (output : List Text) :
    lastStop? (output ++ stop :: lines) = some (span, lines) := by
  induction output with
  | nil =>
      rw [List.nil_append, lastStop?, lastStop?_eq_none hlines, hstop]
      rfl
  | cons line output ih =>
      rw [List.cons_append, lastStop?, ih]

theorem stopped?_append
    {bindings : List Binding} (hstop : stopReport? stop = some span)
    (hlines : ∀ line ∈ lines, stopReport? line = none) (hblock : Binding.IsBlock bindings lines)
    (output : List Text) :
    stopped? (output ++ stop :: lines) =
      some (.stopped (.top ⟨span, some bindings⟩), []) := by
  rw [stopped?, lastStop?_append hstop hlines output, Option.map_some]
  simp only [hblock.readAll_eq]

end LastStop

/-!
## Steps of the history
-/

/-- The heading of a step is the first line that is not blank. -/
theorem moved?_append
    {blanks lines : List Text} {heading : Text} {span : Span} {atTop : Bool}
    {bindings : List Binding} (hblanks : ∀ line ∈ blanks, Text.allBlank line = true)
    (hheading : Text.allBlank heading = false)
    (hreport : ((loggedReport? heading).map fun span => (span, false)).or
      ((stopReport? heading).map fun span => (span, true)) = some (span, atTop))
    (hblock : Binding.IsBlock bindings lines) :
    moved? (blanks ++ heading :: lines) = some (.moved ⟨span, bindings, atTop, false⟩, []) := by
  rw [moved?, Entry.skipBlank_append hblanks hheading]
  simp only [hreport, Option.bind_eq_bind, Option.bind_some, hblock.readAll_eq]

/-- The step of an answer is marked as the top by its heading, and never as the
bottom. -/
theorem exists_heading_of_moved?
    {lines rest : List Text} {answer : Answer} (h : moved? lines = some (answer, rest)) :
    ∃ step header, answer = .moved step ∧ (Entry.skipBlank lines).head? = some header ∧
      step.atTop = (stopReport? header).isSome ∧ step.atBottom = false := by
  rw [moved?] at h
  cases hlines : Entry.skipBlank lines with
  | nil =>
      rw [hlines] at h
      cases h
  | cons header behind =>
      rw [hlines] at h
      simp only [Option.bind_eq_bind, Option.bind_eq_some_iff] at h
      rcases h with ⟨⟨span, atTop⟩, hreport, hanswer⟩
      cases hanswer
      refine ⟨_, header, rfl, rfl, ?_, rfl⟩
      rcases Option.or_eq_some_iff.mp hreport with hlogged | ⟨-, hstop⟩
      · rcases Option.map_eq_some_iff.mp hlogged with ⟨span, hspan, hpair⟩
        cases hpair
        rw [stopReport?_of_loggedReport? hspan]
        rfl
      · rcases Option.map_eq_some_iff.mp hstop with ⟨span, hspan, hpair⟩
        cases hpair
        rw [hspan]
        rfl

/-- The report of a stop is found behind all output, with the bindings in scope.  At the
head of a step it tells that the step led to the top of the history, and a logged
breakpoint tells that it did not.  The bindings may be wrapped like those of any list of
bindings. -/
theorem stop_reports_found
    {span : Span} (hspan : span.IsPrintable) {stop : Text} (hstop : StopLine span stop)
    (output blanks : List Text) (hblanks : ∀ line ∈ blanks, Text.allBlank line = true) :
    (∀ bindings lines, (∀ b ∈ bindings, b.Wrappable) → Binding.Listed bindings lines →
      Binding.IsBlock bindings lines) ∧
    ∀ bindings lines, Binding.IsBlock bindings lines →
      ((∀ line ∈ lines, stopReport? line = none) →
        stopped? (output ++ stop :: lines) =
            some (.stopped (.top ⟨span, some bindings⟩), []) ∧
          Buffer.stopped.on (output ++ stop :: lines) =
            some (some (.stopped (.top ⟨span, some bindings⟩)), [])) ∧
      (moved? (blanks ++ loggedHeading span :: lines) =
          some (.moved ⟨span, bindings, false, false⟩, []) ∧
        Buffer.moved.on (blanks ++ loggedHeading span :: lines) =
          some (some (.moved ⟨span, bindings, false, false⟩), [])) ∧
      (moved? (blanks ++ stop :: lines) =
          some (.moved ⟨span, bindings, true, false⟩, []) ∧
        Buffer.moved.on (blanks ++ stop :: lines) =
          some (some (.moved ⟨span, bindings, true, false⟩), [])) := by
  have hreport := hstop.stopReport?_eq hspan
  constructor
  · intro bindings lines hbindings hlisted
    exact hlisted.isBlock hbindings
  · intro bindings lines hblock
    refine ⟨?atStop, ?atLogged, ?atTop⟩
    case atStop =>
      intro hlines
      have hread := stopped?_append hreport hlines hblock output
      exact ⟨hread, Buffer.Reading.on_of_reader .stopped hread⟩
    case atLogged =>
      have hlogged := loggedReport?_heading hspan
      have hread : moved? (blanks ++ loggedHeading span :: lines) =
          some (.moved ⟨span, bindings, false, false⟩, []) := by
        apply moved?_append hblanks (not_allBlank_loggedHeading span) _ hblock
        rw [hlogged]
        rfl
      exact ⟨hread, Buffer.Reading.on_of_reader .moved hread⟩
    case atTop =>
      have hread : moved? (blanks ++ stop :: lines) =
          some (.moved ⟨span, bindings, true, false⟩, []) := by
        apply moved?_append hblanks (not_allBlank_of_stopReport? hreport) _ hblock
        rw [loggedReport?_of_stopReport? hreport, hreport]
        rfl
      exact ⟨hread, Buffer.Reading.on_of_reader .moved hread⟩

/-- The program printed a report of its own, and the path of the true one holds what
looks like the end of a function and like a span. -/
theorem stop_reports_found_behind_output :
    let span : Span := ⟨"my dir, a:1:2.hs".toList, 3, 12, 4, 20⟩
    let bindings : List Binding := [
      ⟨some "xs".toList, some "[Int]".toList, some "[1, 2]".toList⟩,
      ⟨some "go".toList, some "Int".toList, none⟩]
    let lines := ["xs :: [Int] =".toList, "  [1, 2]".toList, [' '], "go :: Int = _".toList]
    let stop := "Stopped in Main.f x, my dir, a:1:2.hs:(3,12)-(4,20)".toList
    stopped? (["Stopped at b.hs:1:1".toList, "x = 1".toList, "b.hs:1:1: error: e".toList] ++
        stop :: lines) = some (.stopped (.top ⟨span, some bindings⟩), []) ∧
      moved? ([[], [' ']] ++ loggedHeading span :: lines) =
        some (.moved ⟨span, bindings, false, false⟩, []) ∧
      moved? ([[], [' ']] ++ stop :: lines) =
        some (.moved ⟨span, bindings, true, false⟩, []) := by
  intro span bindings lines stop
  have hspan : span.IsPrintable :=
    ⟨⟨by decide, by decide⟩, by decide, by decide, by decide, by decide, by decide⟩
  have hstop : StopLine span stop := by
    have hline : stop =
        "Stopped in ".toList ++ "Main.f x".toList ++ ", ".toList ++ span.render := by decide
    rw [hline]
    exact .inFunction (by decide) (by decide)
  have hxs : Entry.Wrapped
      (Binding.render ⟨some "xs".toList, some "[Int]".toList, some "[1, 2]".toList⟩)
      ["xs :: [Int] =".toList, "  [1, 2]".toList] :=
    .broken "xs :: [Int] =".toList "  ".toList (by decide) (by decide) <|
      .whole "[1, 2]".toList
  have hgo : Entry.Wrapped (Binding.render ⟨some "go".toList, some "Int".toList, none⟩)
      ["go :: Int = _".toList] :=
    .whole "go :: Int = _".toList
  have hgap : ∀ line ∈ [[' ']], Text.allBlank line = true := by decide
  have hlisted : Binding.Listed bindings lines := .more hxs hgap <| .single hgo
  have hbindings : ∀ b ∈ bindings, b.Wrappable := by
    rw [List.forall_mem_cons, List.forall_mem_singleton]
    refine ⟨?evaluated, ?unevaluated⟩
    case evaluated =>
      refine ⟨⟨⟨_, rfl, by decide⟩, ?_, ?_, nofun⟩, ?_, ?_⟩
      all_goals
        rintro _ ⟨⟩
        decide +kernel
    case unevaluated =>
      refine ⟨⟨⟨_, rfl, by decide⟩, ?_, nofun, nofun⟩, ?_, nofun⟩
      all_goals
        rintro _ ⟨⟩
        decide +kernel
  have hnone : ∀ line ∈ lines, stopReport? line = none := by decide
  have hblanks : ∀ line ∈ [[], [' ']], Text.allBlank line = true := by decide
  rcases stop_reports_found hspan hstop
      ["Stopped at b.hs:1:1".toList, "x = 1".toList, "b.hs:1:1: error: e".toList]
      [[], [' ']] hblanks with ⟨hblock, hread⟩
  rcases hread bindings lines (hblock bindings lines hbindings hlisted) with
    ⟨hstopped, hlogged, htop⟩
  exact ⟨(hstopped hnone).1, hlogged.1, htop.1⟩

end Answer
end GhciBridge
