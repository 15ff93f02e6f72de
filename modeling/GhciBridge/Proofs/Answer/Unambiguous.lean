import GhciBridge.Proofs.Answer.Stop
import GhciBridge.Text.Word

/-!
# Answers of unknown form

An answer of unknown form is given to one reader after the other.  Each reader knows its
answers by the way their first line begins, and no two of these ways agree; only a stop
report may stand anywhere.  So the first reader that accepts an answer is the one that
it was made for.
-/

namespace GhciBridge

/-!
## How an answer begins
-/

namespace Entry

theorem not_allBlank_of_skipBlank
    {lines rest : List Text} {line : Text} (h : skipBlank lines = line :: rest) :
    Text.allBlank line = false := by
  have hhead := List.head?_dropWhile_not Text.allBlank lines
  rw [← skipBlank, h] at hhead
  exact hhead

theorem mem_of_skipBlank
    {lines rest : List Text} {line : Text} (h : skipBlank lines = line :: rest) :
    line ∈ lines := by
  apply (List.dropWhile_sublist Text.allBlank).subset
  rw [← skipBlank, h]
  exact List.mem_cons_self

theorem spaced_join
    {line : Text} (h : Text.allBlank line = false) (lines : List Text) :
    Text.Spaced (join (line :: lines)) := by
  apply Text.spaced_joinWords
  · rw [List.flatMap_cons]
    exact List.append_ne_nil_of_left_ne_nil (Text.words_ne_nil_of_not_allBlank h) _
  · intro word hword
    rcases List.mem_flatMap.mp hword with ⟨other, -, hmem⟩
    exact Text.isWord_of_mem_words hmem

/-- An entry begins as its first line does. -/
theorem exists_join_of_trim
    {line text : Text} {c : Char} (h : Text.trim line = c :: text) (lines : List Text) :
    ∃ rest, join (line :: lines) = c :: rest := by
  rcases Text.exists_words_of_trim h with ⟨word, more, hwords⟩
  rw [join, List.flatMap_cons, hwords, List.cons_append]
  exact Text.exists_joinWords_cons c word _

theorem exists_join_of_trim_append
    {line word text : Text} {c : Char} (hword : Text.IsWord word) (hc : Text.isBlank c = false)
    (h : Text.trim line = word ++ ' ' :: c :: text) (lines : List Text) :
    ∃ rest, join (line :: lines) = word ++ ' ' :: c :: rest := by
  rcases hword.exists_words_of_trim_append hc h with ⟨second, more, hwords⟩
  rcases Text.exists_joinWords_cons c second (more ++ lines.flatMap Text.words) with
    ⟨rest, hrest⟩
  refine ⟨rest, ?_⟩
  rw [join, List.flatMap_cons, hwords, List.cons_append, List.cons_append,
    Text.joinWords_cons_cons, hrest]

end Entry

namespace Answer

/-- The first line that is not blank, without the blanks around it. -/
def opening (lines : List Text) : Text :=
  Text.trim ((Entry.skipBlank lines).headD [])

/-- A character with which the name of a variable can begin: letters and underscores
are such characters, and digits are not. -/
def beginsName (c : Char) : Bool :=
  Text.isWord c && !c.isDigit

example : ['x', 'É', '_', '1'].map beginsName = [true, true, true, false] := by
  decide +kernel

/-- A character with which a history can begin: that of an empty one, dots, or a count. -/
def beginsHistory (c : Char) : Bool :=
  c == 'E' || c == '.' || c == '-' || c.isDigit

/-- An opening that no binding of a variable has: behind the first word there is no
separator, or the first word is no name. -/
inductive IsForeign : Text → Prop where
  | secondWord {word : Text} {c : Char} (rest : Text) (hword : Text.IsWord word)
      (hc : Text.isBlank c = false) (hcolon : c ≠ ':') (hequals : c ≠ '=') :
      IsForeign (word ++ ' ' :: c :: rest)
  | firstWord {c : Char} (rest : Text) (hc : beginsName c = false) : IsForeign (c :: rest)

theorem opening_of_skipBlank
    {lines rest : List Text} {line : Text} (h : Entry.skipBlank lines = line :: rest) :
    opening lines = Text.trim line := by
  unfold opening
  rw [h]
  rfl

theorem exists_digit_of_word?
    {digits : Text} {n : Int32} (h : Numeral.word? digits = some n) (rest : Text) :
    ∃ c more, digits ++ rest = c :: more ∧ c.isDigit = true := by
  rcases Numeral.word?_eq_some_iff.mp h with ⟨hne, hdigits, -⟩
  cases digits with
  | nil => exact absurd rfl hne
  | cons c digits => exact ⟨c, digits ++ rest, rfl, hdigits c List.mem_cons_self⟩

/-!
## The openings of the readers
-/

section Openings

variable {lines rest : List Text} {answer : Answer}

theorem head?_opening_of_payload?
    (h : payload? lines = some (answer, rest)) :
    (opening lines).head? = some '\x7b' := by
  unfold payload? at h
  split at h
  · cases h
  · next line behind hlines =>
      simp only [Option.ite_none_right_eq_some, Text.beginsWith_iff] at h
      rcases h with ⟨⟨text, htext⟩, -⟩
      rw [opening_of_skipBlank hlines, htext]
      rfl

theorem exists_opening_of_breakpoint?
    (h : breakpoint? lines = some (answer, rest)) :
    ∃ c text, opening lines = "Breakpoint".toList ++ ' ' :: c :: text ∧ c.isDigit = true := by
  unfold breakpoint? at h
  split at h
  · cases h
  · next line behind hlines =>
      rcases Option.map_eq_some_iff.mp h with ⟨report, hreport, -⟩
      simp only [breakpointReport?, Option.bind_eq_bind, Option.bind_eq_some_iff] at hreport
      rcases hreport with ⟨text, htext, n, hnumber, -⟩
      rcases exists_digit_of_word? hnumber (Numeral.digitsAtFront text).2 with
        ⟨c, more, hmore, hc⟩
      rw [Numeral.digitsAtFront_append] at hmore
      refine ⟨c, more, ?_, hc⟩
      rw [opening_of_skipBlank hlines, Text.afterPrefix?_eq_some_iff.mp htext, hmore]
      rfl

theorem exists_opening_of_moved?
    (hstop : ∀ line ∈ lines, stopReport? line = none)
    (h : moved? lines = some (answer, rest)) :
    ∃ text, opening lines = "Logged".toList ++ ' ' :: 'b' :: text := by
  unfold moved? at h
  split at h
  · cases h
  · next line behind hlines =>
      have hmem := Entry.mem_of_skipBlank hlines
      simp only [hstop line hmem, Option.map_none, Option.or_none, Option.bind_eq_bind,
        Option.bind_eq_some_iff] at h
      rcases h with ⟨report, hreport, -⟩
      rcases Option.map_eq_some_iff.mp hreport with ⟨span, hspan, -⟩
      simp only [loggedReport?, Option.bind_eq_bind, Option.bind_eq_some_iff] at hspan
      rcases hspan with ⟨text, htext, -⟩
      refine ⟨"reakpoint at ".toList ++ text, ?_⟩
      rw [opening_of_skipBlank hlines, Text.afterPrefix?_eq_some_iff.mp htext]
      rfl

theorem exists_head_of_historyEntry?
    {line : Text} {frame : StackFrame} (h : historyEntry? line = some frame) :
    ∃ c text, line = c :: text ∧ (c = '-' ∨ c.isDigit = true) := by
  cases line with
  | nil => cases h
  | cons c text =>
      refine ⟨c, text, rfl, ?_⟩
      by_cases hsign : c = '-'
      · exact .inl hsign
      · right
        cases hc : c.isDigit with
        | true => rfl
        | false =>
            have hdigits : Numeral.digitsAtFront (c :: text) = ([], c :: text) := by
              simp [Numeral.digitsAtFront, hc]
            have hnumber : Numeral.signedWord? ([] ++ []) = none := rfl
            unfold historyEntry? at h
            split at h
            next sign behind hfront =>
              split at hfront
              · next hline =>
                  cases hline
                  exact absurd rfl hsign
              · cases hfront
                simp only [hdigits, hnumber, Option.bind_eq_bind, Option.bind_none] at h
                cases h

theorem exists_head_of_historyFrames
    {line : Text} (h : (historyFrames (line :: lines)).1 ≠ []) :
    ∃ c text, Text.trim line = c :: text ∧ (c = '.' ∨ c = '-' ∨ c.isDigit = true) := by
  rw [historyFrames] at h
  simp only at h
  split at h
  · exact absurd rfl h
  · split at h
    · next hdots => exact ⟨'.', "..".toList, hdots, .inl rfl⟩
    · split at h
      · next frame hentry =>
          rcases exists_head_of_historyEntry? hentry with ⟨c, text, htext, hc⟩
          exact ⟨c, text, htext, .inr hc⟩
      · exact absurd rfl h

/-- A history begins with the text for an empty one, with dots, or with a count. -/
theorem exists_opening_of_history?
    (h : history? lines = some (answer, rest)) :
    (∃ text, opening lines = "Empty".toList ++ ' ' :: 'h' :: text) ∨
      ∃ c text, opening lines = c :: text ∧ (c = '.' ∨ c = '-' ∨ c.isDigit = true) := by
  unfold history? at h
  split at h
  · cases h
  · next line behind hlines =>
      rw [opening_of_skipBlank hlines]
      split at h
      · next hempty =>
          rcases Text.beginsWith_iff.mp hempty with ⟨text, htext⟩
          exact .inl ⟨"istory.".toList ++ text, htext⟩
      · right
        apply exists_head_of_historyFrames
        intro hnil
        generalize historyFrames (line :: behind) = frames at h hnil
        rcases frames with ⟨frames, last⟩
        cases hnil
        cases h

/-!
## Openings of bindings
-/

theorem isForeign_of_payload?
    (h : payload? lines = some (answer, rest)) :
    IsForeign (opening lines) := by
  rcases List.head?_eq_some_iff.mp (head?_opening_of_payload? h) with ⟨text, htext⟩
  rw [htext]
  exact .firstWord text (by decide +kernel)

theorem isForeign_of_breakpoint?
    (h : breakpoint? lines = some (answer, rest)) :
    IsForeign (opening lines) := by
  rcases exists_opening_of_breakpoint? h with ⟨c, text, htext, hc⟩
  have hseparator : c ≠ ':' ∧ c ≠ '=' := by
    constructor
    · intro hcolon
      rw [hcolon] at hc
      cases hc
    · intro hequals
      rw [hequals] at hc
      cases hc
  rw [htext]
  exact .secondWord text (by decide) (Numeral.isBlank_of_isDigit hc) hseparator.1 hseparator.2

theorem isForeign_of_moved?
    (hstop : ∀ line ∈ lines, stopReport? line = none)
    (h : moved? lines = some (answer, rest)) :
    IsForeign (opening lines) := by
  rcases exists_opening_of_moved? hstop h with ⟨text, htext⟩
  rw [htext]
  exact .secondWord text (by decide) (by decide) (by decide) (by decide)

theorem isForeign_of_history?
    (h : history? lines = some (answer, rest)) :
    IsForeign (opening lines) := by
  rcases exists_opening_of_history? h with ⟨text, htext⟩ | ⟨c, text, htext, hc⟩
  · rw [htext]
    exact .secondWord text (by decide) (by decide) (by decide) (by decide)
  · rw [htext]
    apply IsForeign.firstWord
    rcases hc with rfl | rfl | hdigit
    · decide +kernel
    · decide +kernel
    · rw [beginsName, hdigit, Bool.not_true, Bool.and_false]

/-- An entry that gives a name and a separator does not begin as other answers do. -/
theorem not_isForeign_of_join
    {line : Text} {c mark : Char} {name more : Text}
    (hjoin : Entry.join (line :: lines) = c :: name ++ ' ' :: mark :: more)
    (hname : Text.IsWord (c :: name)) (hc : beginsName c = true)
    (hmark : mark = ':' ∨ mark = '=') :
    ¬ IsForeign (Text.trim line) := by
  intro hforeign
  generalize htrim : Text.trim line = text at hforeign
  cases hforeign with
  | @secondWord word d text hword hd hcolon hequals =>
      rcases Entry.exists_join_of_trim_append hword hd htrim lines with ⟨tail, hother⟩
      rw [hjoin] at hother
      have hsame := (hname.eq_of_append hword hother).2
      cases hsame
      cases hmark with
      | inl h => exact hcolon h
      | inr h => exact hequals h
  | @firstWord d text hd =>
      rcases Entry.exists_join_of_trim htrim lines with ⟨tail, hother⟩
      rw [hjoin] at hother
      cases hother
      rw [hc] at hd
      cases hd

/-- The first binding of a list is read off the entry that begins with the first line. -/
theorem exists_entry_of_bindings?
    {b : Binding} {bindings : List Binding}
    (h : bindings? lines = some (.bindingList (b :: bindings), rest)) :
    ∃ line behind, Entry.skipBlank lines = line :: behind ∧
      Binding.read? (Entry.join (line :: behind.takeWhile Entry.continues)) = some b := by
  have hread := Binding.readAll_of_skipBlank (Binding.readAll_of_bindings? h)
  rcases Binding.exists_entry_of_readAll hread with ⟨entry, last, htake, hentry, -⟩
  cases hlines : Entry.skipBlank lines with
  | nil =>
      rw [hlines] at htake
      cases htake
  | cons line behind =>
      rw [hlines] at htake
      cases htake
      exact ⟨line, behind, rfl, hentry⟩

theorem not_isForeign_of_bindings?
    {b : Binding} {bindings : List Binding} {c : Char} {name : Text}
    (h : bindings? lines = some (.bindingList (b :: bindings), rest))
    (hname : b.name = some (c :: name)) (hc : beginsName c = true) :
    ¬ IsForeign (opening lines) := by
  rcases exists_entry_of_bindings? h with ⟨line, behind, hlines, hentry⟩
  have hspaced := Entry.spaced_join (Entry.not_allBlank_of_skipBlank hlines)
    (behind.takeWhile Entry.continues)
  rcases Binding.exists_name_of_read? hspaced hentry with
    ⟨first, mark, more, hfirst, hword, hjoin, hmark⟩
  rw [hname] at hfirst
  cases hfirst
  rw [opening_of_skipBlank hlines]
  exact not_isForeign_of_join hjoin hword hc hmark

end Openings

/-!
## The reader that an answer was made for
-/

section Dispatch

variable {lines : List Text}

theorem findSome?_cons_eq_or
    {α β : Type} (f : α → Option β) (a : α) (more : List α) :
    (a :: more).findSome? f = (f a).or (more.findSome? f) := by
  rw [List.findSome?_cons]
  cases f a with
  | none => rfl
  | some b => rfl

theorem any?_eq
    (lines : List Text) :
    any? lines =
      (payload? lines).or ((breakpoint? lines).or ((stopped? lines).or
        ((moved? lines).or ((history? lines).or (someBindings? lines))))) := by
  rw [any?, unambiguous]
  simp only [findSome?_cons_eq_or, List.findSome?_nil, Option.or_none]

theorem payload?_eq_none
    (h : (opening lines).head? ≠ some '\x7b') :
    payload? lines = none := by
  cases hread : payload? lines with
  | none => rfl
  | some found => exact absurd (head?_opening_of_payload? hread) h

theorem breakpoint?_eq_none
    (h : (opening lines).head? ≠ some 'B') :
    breakpoint? lines = none := by
  cases hread : breakpoint? lines with
  | none => rfl
  | some found =>
      rcases exists_opening_of_breakpoint? hread with ⟨c, text, htext, -⟩
      rw [htext] at h
      exact absurd rfl h

theorem moved?_eq_none
    (hstop : ∀ line ∈ lines, stopReport? line = none)
    (h : (opening lines).head? ≠ some 'L') :
    moved? lines = none := by
  cases hread : moved? lines with
  | none => rfl
  | some found =>
      rcases exists_opening_of_moved? hstop hread with ⟨text, htext⟩
      rw [htext] at h
      exact absurd rfl h

theorem any?_of_breakpoint?
    {found : Answer × List Text} (h : breakpoint? lines = some found) :
    any? lines = some found := by
  rcases exists_opening_of_breakpoint? h with ⟨c, text, htext, -⟩
  have hpayload : payload? lines = none := by
    apply payload?_eq_none
    intro hobject
    rw [htext] at hobject
    cases hobject
  rw [any?_eq, hpayload, h, Option.none_or, Option.some_or]

/-- Lines behind a report of a breakpoint are left as they are. -/
theorem breakpoint?_append
    {rest : List Text} {answer : Answer} (h : breakpoint? lines = some (answer, rest))
    (further : List Text) :
    breakpoint? (lines ++ further) = some (answer, rest ++ further) := by
  unfold breakpoint? at h
  split at h
  · cases h
  · next line behind hlines =>
      have hskip : Entry.skipBlank (lines ++ further) = line :: (behind ++ further) := by
        rw [Entry.skipBlank, List.dropWhile_append, ← Entry.skipBlank, hlines]
        rfl
      rcases Option.map_eq_some_iff.mp h with ⟨report, hreport, hanswer⟩
      cases hanswer
      rw [breakpoint?, hskip]
      simp only [hreport, Option.map_some]

theorem any?_of_moved?
    (hstop : ∀ line ∈ lines, stopReport? line = none) {found : Answer × List Text}
    (h : moved? lines = some found) :
    any? lines = some found := by
  rcases exists_opening_of_moved? hstop h with ⟨text, htext⟩
  have hpayload : payload? lines = none := by
    apply payload?_eq_none
    intro hobject
    rw [htext] at hobject
    cases hobject
  have hbreakpoint : breakpoint? lines = none := by
    apply breakpoint?_eq_none
    intro hother
    rw [htext] at hother
    cases hother
  rw [any?_eq, hpayload, hbreakpoint, stopped?_eq_none_iff.mpr hstop, h, Option.none_or,
    Option.none_or, Option.none_or, Option.some_or]

theorem head?_opening_of_history?
    {found : Answer × List Text} (h : history? lines = some found) {c : Char}
    (hc : beginsHistory c = false) :
    (opening lines).head? ≠ some c := by
  have hhead : ∃ d text, opening lines = d :: text ∧ beginsHistory d = true := by
    rcases exists_opening_of_history? h with ⟨text, htext⟩ | ⟨d, text, htext, hd⟩
    · exact ⟨'E', _, htext, by decide⟩
    · refine ⟨d, text, htext, ?_⟩
      rcases hd with rfl | rfl | hdigit
      · decide
      · decide
      · rw [beginsHistory, hdigit, Bool.or_true]
  intro hsame
  rcases hhead with ⟨d, text, htext, hd⟩
  rw [htext] at hsame
  cases hsame
  rw [hc] at hd
  cases hd

theorem any?_of_history?
    (hstop : ∀ line ∈ lines, stopReport? line = none) {found : Answer × List Text}
    (h : history? lines = some found) :
    any? lines = some found := by
  have hpayload := payload?_eq_none (head?_opening_of_history? h (by decide))
  have hbreakpoint := breakpoint?_eq_none (head?_opening_of_history? h (by decide))
  have hmoved := moved?_eq_none hstop (head?_opening_of_history? h (by decide))
  rw [any?_eq, hpayload, hbreakpoint, stopped?_eq_none_iff.mpr hstop, hmoved, h,
    Option.none_or, Option.none_or, Option.none_or, Option.none_or, Option.some_or]

theorem someBindings?_of_bindings?
    {b : Binding} {bindings : List Binding} {rest : List Text}
    (h : bindings? lines = some (.bindingList (b :: bindings), rest)) :
    someBindings? lines = bindings? lines := by
  apply if_neg
  intro hblank
  have hskip : Entry.skipBlank lines = [] := by
    rw [Entry.skipBlank, List.dropWhile_eq_nil_iff]
    exact List.all_eq_true.mp hblank
  rcases exists_entry_of_bindings? h with ⟨line, behind, hlines, -⟩
  rw [hskip] at hlines
  cases hlines

/-- Neither of the readers that are tried first takes the opening of a binding. -/
theorem any?_of_bindings?
    (hstop : ∀ line ∈ lines, stopReport? line = none) {b : Binding} {bindings : List Binding}
    {rest : List Text} {c : Char} {name : Text}
    (h : bindings? lines = some (.bindingList (b :: bindings), rest))
    (hname : b.name = some (c :: name)) (hc : beginsName c = true) :
    any? lines = some (.bindingList (b :: bindings), rest) := by
  have hforeign := not_isForeign_of_bindings? h hname hc
  have hpayload : payload? lines = none :=
    Option.eq_none_iff_forall_ne_some.mpr fun _ hread => hforeign (isForeign_of_payload? hread)
  have hbreakpoint : breakpoint? lines = none :=
    Option.eq_none_iff_forall_ne_some.mpr fun _ hread => hforeign (isForeign_of_breakpoint? hread)
  have hmoved : moved? lines = none :=
    Option.eq_none_iff_forall_ne_some.mpr fun _ hread =>
      hforeign (isForeign_of_moved? hstop hread)
  have hhistory : history? lines = none :=
    Option.eq_none_iff_forall_ne_some.mpr fun _ hread => hforeign (isForeign_of_history? hread)
  rw [any?_eq, hpayload, hbreakpoint, stopped?_eq_none_iff.mpr hstop, hmoved, hhistory,
    someBindings?_of_bindings? h, h]
  rfl

theorem any?_of_stopReport?
    (hstop : ∃ line ∈ lines, (stopReport? line).isSome = true)
    (hobject : (opening lines).head? ≠ some '\x7b') (hbreakpoint : breakpoint? lines = none) :
    any? lines = stopped? lines ∧ (stopped? lines).isSome = true := by
  have hpayload := payload?_eq_none hobject
  cases hstopped : stopped? lines with
  | none =>
      rcases hstop with ⟨line, hmem, hline⟩
      rw [stopped?_eq_none_iff.mp hstopped line hmem] at hline
      cases hline
  | some found =>
      rw [any?_eq, hpayload, hbreakpoint, hstopped, Option.none_or, Option.none_or,
        Option.some_or]
      exact ⟨rfl, rfl⟩

end Dispatch

/-!
## Steps of the history
-/

section Steps

variable (lines rest : List Text) (step : HistoryStep)

theorem payload?_ne_moved :
    payload? lines ≠ some (.moved step, rest) := by
  intro h
  unfold payload? at h
  split at h
  · cases h
  · simp only [Option.ite_none_right_eq_some, Option.map_eq_some_iff] at h
    rcases h with ⟨-, data, -, hanswer⟩
    cases hanswer

theorem breakpoint?_ne_moved :
    breakpoint? lines ≠ some (.moved step, rest) := by
  intro h
  unfold breakpoint? at h
  split at h
  · cases h
  · rcases Option.map_eq_some_iff.mp h with ⟨report, -, hanswer⟩
    cases hanswer

theorem stopped?_ne_moved :
    stopped? lines ≠ some (.moved step, rest) := by
  intro h
  rcases Option.map_eq_some_iff.mp h with ⟨stop, -, hanswer⟩
  cases hanswer

theorem history?_ne_moved :
    history? lines ≠ some (.moved step, rest) := by
  intro h
  unfold history? at h
  split at h
  · cases h
  · split at h
    · cases h
    · split at h
      · cases h
      · cases h

theorem bindings?_ne_moved :
    bindings? lines ≠ some (.moved step, rest) := by
  intro h
  unfold bindings? at h
  simp only [Option.ite_none_left_eq_some] at h
  cases h.2.2

end Steps

/-- A stop report is read as a stop, so no step found among other answers led to the
top of the history. -/
theorem atTop_eq_false_of_any?
    {lines rest : List Text} {step : HistoryStep}
    (h : any? lines = some (.moved step, rest)) :
    step.atTop = false := by
  simp only [any?_eq, Option.or_eq_some_iff] at h
  rcases h with h | ⟨-, h | ⟨-, h | ⟨hstopped, h | ⟨-, h | ⟨-, h⟩⟩⟩⟩⟩
  · exact absurd h (payload?_ne_moved lines rest step)
  · exact absurd h (breakpoint?_ne_moved lines rest step)
  · exact absurd h (stopped?_ne_moved lines rest step)
  · rcases exists_heading_of_moved? h with ⟨found, header, hanswer, hheader, htop, -⟩
    cases hanswer
    rcases List.head?_eq_some_iff.mp hheader with ⟨behind, hlines⟩
    rw [htop, stopped?_eq_none_iff.mp hstopped header (Entry.mem_of_skipBlank hlines)]
    rfl
  · exact absurd h (history?_ne_moved lines rest step)
  · exact absurd (Option.ite_none_left_eq_some.mp h).2 (bindings?_ne_moved lines rest step)

open Buffer Reading

/-- Every kind of answer is recognised for what it is.  What follows a report of a
breakpoint is of no account.  Where no line reports a stop, a step, a history and a list
of bindings are found by their own readers and by no other.  Where some line does, the
answer is a stop, unless its first line opens an object or reports a breakpoint. -/
theorem unknown_form_recognised
    (lines : List Text) :
    (∀ answer rest, breakpoint? lines = some (answer, rest) →
      ∀ further, breakpoint? (lines ++ further) = some (answer, rest ++ further) ∧
        Agree .any .breakpoint (lines ++ further)) ∧
    ((∀ line ∈ lines, stopReport? line = none) →
      ((moved? lines).isSome = true → Agree .any .moved lines) ∧
      ((history? lines).isSome = true → Agree .any .history lines) ∧
      ∀ b bindings rest c name, bindings? lines = some (.bindingList (b :: bindings), rest) →
        b.name = some (c :: name) → beginsName c = true → Agree .any .bindings lines) ∧
    ((∃ line ∈ lines, (stopReport? line).isSome = true) →
      (opening lines).head? ≠ some '\x7b' → breakpoint? lines = none →
      (stopped? lines).isSome = true ∧ Agree .any .stopped lines) ∧
    ∀ step rest, any? lines = some (.moved step, rest) → step.atTop = false := by
  refine ⟨?breakpoint, ?unstopped, ?stopped, ?step⟩
  case breakpoint =>
    intro answer rest h further
    have hread := breakpoint?_append h further
    refine ⟨hread, Agree.of_reader ?_⟩
    exact (any?_of_breakpoint? hread).trans hread.symm
  case unstopped =>
    intro hstop
    refine ⟨?moved, ?history, ?bindings⟩
    case moved =>
      intro hread
      rcases Option.isSome_iff_exists.mp hread with ⟨found, hread⟩
      exact Agree.of_reader ((any?_of_moved? hstop hread).trans hread.symm)
    case history =>
      intro hread
      rcases Option.isSome_iff_exists.mp hread with ⟨found, hread⟩
      exact Agree.of_reader ((any?_of_history? hstop hread).trans hread.symm)
    case bindings =>
      intro b bindings rest c name hread hname hc
      exact Agree.of_reader ((any?_of_bindings? hstop hread hname hc).trans hread.symm)
  case stopped =>
    intro hstop hobject hbreakpoint
    rcases any?_of_stopReport? hstop hobject hbreakpoint with ⟨hsame, hsome⟩
    exact ⟨hsome, Agree.of_reader hsame⟩
  case step =>
    intro step rest h
    exact atTop_eq_false_of_any? h

/-- The names begin like reports, and the first binding goes on over two lines. -/
theorem bindings_named_like_reports_found :
    let lines := ["Breakpoint :: Int = 1".toList, "  + 2".toList, "Stopped = 2".toList]
    any? lines =
      some (.bindingList [⟨some "Breakpoint".toList, some "Int".toList, some "1 + 2".toList⟩,
        ⟨some "Stopped".toList, none, some "2".toList⟩], []) := by
  intro lines
  have hstop : ∀ line ∈ lines, stopReport? line = none := by decide
  have herror : Diagnostic.anyError lines = false := by decide +kernel
  have hread : Binding.readAll (Entry.skipBlank lines) =
      ([⟨some "Breakpoint".toList, some "Int".toList, some "1 + 2".toList⟩,
        ⟨some "Stopped".toList, none, some "2".toList⟩], []) := by
    decide +kernel
  have hlist : bindings? lines =
      some (.bindingList [⟨some "Breakpoint".toList, some "Int".toList, some "1 + 2".toList⟩,
        ⟨some "Stopped".toList, none, some "2".toList⟩], []) := by
    rw [bindings?, herror, hread]
    rfl
  have hagree := ((unknown_form_recognised lines).2.1 hstop).2.2 _ _ _ 'B' "reakpoint".toList
    hlist rfl (by decide +kernel)
  exact hagree.reader.trans hlist

/-- White space in front of an object is skipped, so a report of a stop behind it is not
looked for. -/
theorem indented_object_taken_first :
    let object := " \x7b\x7d".toList
    let report := "Stopped at A.hs:1:1".toList
    (stopReport? report).isSome = true ∧
      [object, report].find? (fun line => !Text.allBlank line) = some object ∧
      object.head? ≠ some '\x7b' ∧ breakpoint? [object, report] = none ∧
      any? [object, report] = some (.payload (.object []), [report]) ∧
      any? [object, report] ≠ stopped? [object, report] := by
  intro object report
  have hpayload : payload? [object, report] = some (.payload (.object []), [report]) := rfl
  have hany : any? [object, report] = some (.payload (.object []), [report]) := by
    rw [any?_eq, hpayload, Option.some_or]
  refine ⟨by decide, by decide, by decide, ?_, hany, ?_⟩
  · apply breakpoint?_eq_none
    decide
  · intro hsame
    rw [hany] at hsame
    rcases Option.map_eq_some_iff.mp hsame.symm with ⟨stop, -, hanswer⟩
    cases hanswer

end Answer
end GhciBridge
