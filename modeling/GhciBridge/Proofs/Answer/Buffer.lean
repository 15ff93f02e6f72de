import GhciBridge.Command

/-!
# Routines on a buffer of lines

A routine looks at a buffer through indices and takes lines off its front.  What it
has taken is gone even if it returns nothing in the end, so it has to look first and
to take last.  This is the reading of answers as a change of the buffer; the readers
say the same in terms of the lines that are left.
-/

namespace GhciBridge

/-- A routine changes a buffer and may return a value.  It breaks down, without any
result, if it takes more lines than there are. -/
structure Routine (α : Type) where
  on : List Text → Option (Option α × List Text)

namespace Routine

variable {α β : Type}

instance : Monad Routine where
  pure value := ⟨fun lines => some (some value, lines)⟩
  bind routine next := ⟨fun lines =>
    match routine.on lines with
    | some (some value, lines) => (next value).on lines
    | some (none, lines) => some (none, lines)
    | none => none⟩

/-- All lines of the buffer. -/
def buffer : Routine (List Text) :=
  ⟨fun lines => some (some lines, lines)⟩

/-- The routine returns nothing unless there is a value. -/
def require (value? : Option α) : Routine α :=
  ⟨fun lines => some (value?, lines)⟩

/-- The routine returns nothing if the condition holds. -/
def refuse (condition : Bool) : Routine Unit :=
  require (if condition then none else some ())

/-- Takes lines off the front of the buffer. -/
def drain (n : Nat) : Routine Unit :=
  ⟨fun lines => if n ≤ lines.length then some (some (), lines.drop n) else none⟩

/-- A second routine if the first one returns nothing, on what the first one has
left. -/
def orElse (first second : Routine α) : Routine α :=
  ⟨fun lines =>
    match first.on lines with
    | some (none, lines) => second.on lines
    | other => other⟩

/-- The first of some routines that returns a value. -/
def firstOf : List (Routine α) → Routine α
  | [] => require none
  | routine :: routines => orElse routine (firstOf routines)

variable {lines : List Text}

@[simp] theorem on_pure
    (value : α) :
    (pure value : Routine α).on lines = some (some value, lines) := rfl

theorem on_bind
    (routine : Routine α) (next : α → Routine β) :
    (routine >>= next).on lines =
      match routine.on lines with
      | some (some value, lines) => (next value).on lines
      | some (none, lines) => some (none, lines)
      | none => none := rfl

@[simp] theorem on_buffer_bind
    (next : List Text → Routine β) :
    (buffer >>= next).on lines = (next lines).on lines := rfl

@[simp] theorem on_require_none_bind
    (next : α → Routine β) :
    (require none >>= next).on lines = some (none, lines) := rfl

@[simp] theorem on_require_some_bind
    (value : α) (next : α → Routine β) :
    (require (some value) >>= next).on lines = (next value).on lines := rfl

@[simp] theorem on_refuse_false_bind
    (next : Unit → Routine β) :
    (refuse false >>= next).on lines = (next ()).on lines := rfl

theorem on_drain_bind
    {n : Nat} (hle : n ≤ lines.length) (next : Unit → Routine β) :
    (drain n >>= next).on lines = (next ()).on (lines.drop n) := by
  have hdrain : (drain n).on lines = some (some (), lines.drop n) := if_pos hle
  rw [on_bind, hdrain]

end Routine

/-!
## Indices

Each scan of the lines from an index on is a scan of the lines that are left there.
-/

namespace Buffer

/-- The index of the first line from the given one on that is not blank. -/
def skipped (lines : List Text) (start : Nat) : Nat :=
  start + (lines.drop start).findIdx fun line => !Text.allBlank line

/-- The entry at an index, and the index behind it. -/
def entryAt? (lines : List Text) (start : Nat) : Option (Text × Nat) :=
  lines[start]?.map fun line =>
    let behind := lines.drop (start + 1)
    let size := behind.findIdx fun line => !Entry.continues line
    (Entry.join (line :: behind.take size), start + 1 + size)

theorem drop_skipped
    (lines : List Text) (start : Nat) :
    lines.drop (skipped lines start) = Entry.skipBlank (lines.drop start) := by
  rw [skipped, ← List.drop_drop, Entry.skipBlank, List.dropWhile_eq_drop_findIdx_not]

theorem le_skipped
    (lines : List Text) (start : Nat) :
    start ≤ skipped lines start :=
  Nat.le_add_right _ _

theorem skipped_le
    {lines : List Text} {start : Nat} (hle : start ≤ lines.length) :
    skipped lines start ≤ lines.length := by
  have hindex : (lines.drop start).findIdx (fun line => !Text.allBlank line) ≤
      (lines.drop start).length := List.findIdx_le_length
  rw [List.length_drop] at hindex
  rw [skipped]
  omega

theorem take?_drop
    (lines : List Text) (start : Nat) :
    Entry.take? (lines.drop start) =
      (entryAt? lines start).map fun (entry, next) => (entry, lines.drop next) := by
  rw [entryAt?]
  by_cases hstart : start < lines.length
  · rw [List.drop_eq_getElem_cons hstart, List.getElem?_eq_getElem hstart, Entry.take?,
      List.takeWhile_eq_take_findIdx_not, List.dropWhile_eq_drop_findIdx_not, List.drop_drop]
    rfl
  · have hend := Nat.le_of_not_lt hstart
    rw [List.drop_eq_nil_of_le hend, List.getElem?_eq_none hend]
    rfl

theorem bounds_of_entryAt?
    {lines : List Text} {start next : Nat} {entry : Text}
    (h : entryAt? lines start = some (entry, next)) :
    start < next ∧ next ≤ lines.length := by
  rw [entryAt?, Option.map_eq_some_iff] at h
  rcases h with ⟨line, hline, hentry⟩
  rw [Prod.mk.injEq] at hentry
  have hstart := (List.getElem?_eq_some_iff.mp hline).1
  have hindex : (lines.drop (start + 1)).findIdx (fun line => !Entry.continues line) ≤
      (lines.drop (start + 1)).length := List.findIdx_le_length
  rw [List.length_drop] at hindex
  omega

/-- The bindings from an index on, and the index behind the last of them. -/
def bindingsAt (lines : List Text) (start : Nat) : List Binding × Nat :=
  match _h : entryAt? lines (skipped lines start) with
  | none => ([], start)
  | some (entry, next) =>
      match Binding.read? entry with
      | none => ([], start)
      | some binding =>
          let (bindings, last) := bindingsAt lines next
          (binding :: bindings, last)
termination_by lines.length - start
decreasing_by
  have hbounds := bounds_of_entryAt? _h
  have hskip := le_skipped lines start
  omega

theorem readAll_of_none
    {lines : List Text} (h : Entry.take? (Entry.skipBlank lines) = none) :
    Binding.readAll lines = ([], lines) := by
  rw [Binding.readAll]
  split
  · rfl
  · next hsome =>
      rw [h] at hsome
      cases hsome

theorem readAll_of_some
    {lines rest : List Text} {entry : Text}
    (h : Entry.take? (Entry.skipBlank lines) = some (entry, rest)) :
    Binding.readAll lines =
      match Binding.read? entry with
      | none => ([], lines)
      | some binding => (binding :: (Binding.readAll rest).1, (Binding.readAll rest).2) := by
  rw [Binding.readAll]
  split
  · next hnone =>
      rw [h] at hnone
      cases hnone
  · next hsome =>
      rw [h] at hsome
      cases hsome
      rfl

theorem readAll_drop
    (lines : List Text) (start : Nat) :
    Binding.readAll (lines.drop start) =
      ((bindingsAt lines start).1, lines.drop (bindingsAt lines start).2) := by
  fun_induction bindingsAt lines start with
  | case1 start hentry =>
      have htake := take?_drop lines (skipped lines start)
      rw [drop_skipped, hentry] at htake
      rw [readAll_of_none htake]
  | case2 start entry next hentry hread =>
      have htake := take?_drop lines (skipped lines start)
      rw [drop_skipped, hentry] at htake
      rw [readAll_of_some htake, hread]
  | case3 start entry next hentry binding hread bindings last hrest ih =>
      have htake := take?_drop lines (skipped lines start)
      rw [drop_skipped, hentry] at htake
      rw [readAll_of_some htake, hread, ih, hrest]

/-- The last binding ends inside of the buffer, and behind a line that is not blank
if there is one. -/
theorem bounds_bindingsAt
    {lines : List Text} {start : Nat} (hle : start ≤ lines.length) :
    start ≤ (bindingsAt lines start).2 ∧ (bindingsAt lines start).2 ≤ lines.length ∧
      ((bindingsAt lines start).1 = [] ∧ (bindingsAt lines start).2 = start ∨
        skipped lines start < (bindingsAt lines start).2) := by
  fun_induction bindingsAt lines start with
  | case1 start hentry => exact ⟨Nat.le_refl _, hle, .inl ⟨rfl, rfl⟩⟩
  | case2 start entry next hentry hread => exact ⟨Nat.le_refl _, hle, .inl ⟨rfl, rfl⟩⟩
  | case3 start entry next hentry binding hread bindings last hrest ih =>
      have hbounds := bounds_of_entryAt? hentry
      have hskip := le_skipped lines start
      have hlast := ih hbounds.2
      rw [hrest] at hlast
      omega

/-!
## The evaluation history
-/

/-- The frames from an index on, and the index behind them. -/
def framesAt (lines : List Text) (start : Nat) : List StackFrame × Nat :=
  match _h : lines[start]? with
  | none => ([], start)
  | some line =>
      let text := Text.trim line
      if text = "<end of history>".toList then
        ([], start + 1)
      else if text = "...".toList then
        framesAt lines (start + 1)
      else
        match Answer.historyEntry? text with
        | none => ([], start)
        | some frame =>
            let (frames, last) := framesAt lines (start + 1)
            (frame :: frames, last)
termination_by lines.length - start
decreasing_by
  all_goals
    have hstart := (List.getElem?_eq_some_iff.mp _h).1
    omega

theorem drop_of_getElem?
    {lines : List Text} {line : Text} {i : Nat} (h : lines[i]? = some line) :
    lines.drop i = line :: lines.drop (i + 1) := by
  rcases List.getElem?_eq_some_iff.mp h with ⟨hi, rfl⟩
  exact List.drop_eq_getElem_cons hi

theorem drop_of_getElem?_eq_none
    {lines : List Text} {i : Nat} (h : lines[i]? = none) :
    lines.drop i = [] :=
  List.drop_eq_nil_of_le (List.getElem?_eq_none_iff.mp h)

theorem historyFrames_drop
    (lines : List Text) (start : Nat) :
    Answer.historyFrames (lines.drop start) =
      ((framesAt lines start).1, lines.drop (framesAt lines start).2) := by
  fun_induction framesAt lines start with
  | case1 start hline =>
      rw [drop_of_getElem?_eq_none hline]
      rfl
  | case2 start line hline text htext =>
      rw [drop_of_getElem? hline]
      exact if_pos htext
  | case3 start line hline text htext hdots ih =>
      rw [drop_of_getElem? hline, Answer.historyFrames, ih]
      exact (if_neg htext).trans (if_pos hdots)
  | case4 start line hline text htext hdots hentry =>
      rw [drop_of_getElem? hline, Answer.historyFrames]
      refine (if_neg htext).trans ((if_neg hdots).trans ?_)
      rw [hentry]
  | case5 start line hline text htext hdots frame hentry frames last hrest ih =>
      rw [drop_of_getElem? hline, Answer.historyFrames, ih, hrest]
      refine (if_neg htext).trans ((if_neg hdots).trans ?_)
      rw [hentry]

/-- The last frame ends inside of the buffer, and behind the first line if there is
one. -/
theorem bounds_framesAt
    {lines : List Text} {start : Nat} (hle : start ≤ lines.length) :
    start ≤ (framesAt lines start).2 ∧ (framesAt lines start).2 ≤ lines.length ∧
      ((framesAt lines start).1 = [] ∨ start < (framesAt lines start).2) := by
  fun_induction framesAt lines start with
  | case1 start hline => exact ⟨Nat.le_refl _, hle, .inl rfl⟩
  | case2 start line hline text htext =>
      exact ⟨Nat.le_succ _, (List.getElem?_eq_some_iff.mp hline).1, .inl rfl⟩
  | case3 start line hline text htext hdots ih =>
      have hlast := ih (List.getElem?_eq_some_iff.mp hline).1
      exact ⟨Nat.le_of_succ_le hlast.1, hlast.2.1, .inr hlast.1⟩
  | case4 start line hline text htext hdots hentry => exact ⟨Nat.le_refl _, hle, .inl rfl⟩
  | case5 start line hline text htext hdots frame hentry frames last hrest ih =>
      have hlast := ih (List.getElem?_eq_some_iff.mp hline).1
      rw [hrest] at hlast
      exact ⟨Nat.le_of_succ_le hlast.1, hlast.2.1, .inr hlast.1⟩

/-!
## The last stop
-/

/-- The index and the span of the last stop report. -/
def lastStopAt? (lines : List Text) : Option (Nat × Span) :=
  lines.zipIdx.reverse.findSome? fun (line, i) =>
    (Answer.stopReport? line).map fun span => (i, span)

theorem lastStop?_append
    (front lines : List Text) :
    Answer.lastStop? lines =
      ((lines.zipIdx front.length).reverse.findSome? fun (line, i) =>
        (Answer.stopReport? line).map fun span => (i, span)).map fun (i, span) =>
          (span, (front ++ lines).drop (i + 1)) := by
  induction lines generalizing front with
  | nil => rfl
  | cons line lines ih =>
      have hrest := ih (front ++ [line])
      rw [List.length_append, List.length_singleton, List.append_assoc, List.singleton_append]
        at hrest
      rw [List.zipIdx_cons, List.reverse_cons, List.findSome?_append, Answer.lastStop?, hrest]
      cases (lines.zipIdx (front.length + 1)).reverse.findSome? fun (line, i) =>
          (Answer.stopReport? line).map fun span => (i, span) with
      | some stop => rfl
      | none =>
          cases hreport : Answer.stopReport? line with
          | none => simp [hreport]
          | some span => simp [hreport, List.drop_append]

theorem lastStop?_eq
    (lines : List Text) :
    Answer.lastStop? lines =
      (lastStopAt? lines).map fun (i, span) => (span, lines.drop (i + 1)) :=
  lastStop?_append [] lines

theorem stopReport?_of_allBlank
    {line : Text} (h : Text.allBlank line = true) :
    Answer.stopReport? line = none := by
  have htrim : Text.trim line = [] := by
    rw [Text.trim, (Text.allBlank_iff_trimStart line).mp h]
    rfl
  rw [Answer.stopReport?, htrim]
  rfl

theorem bounds_of_lastStopAt?
    {lines : List Text} {i : Nat} {span : Span} (h : lastStopAt? lines = some (i, span)) :
    skipped lines 0 ≤ i ∧ i < lines.length := by
  rw [lastStopAt?] at h
  rcases List.exists_of_findSome?_eq_some h with ⟨⟨line, j⟩, hmem, hreport⟩
  rw [Option.map_eq_some_iff] at hreport
  rcases hreport with ⟨span', hreport, hsame⟩
  rw [Prod.mk.injEq] at hsame
  rcases hsame with ⟨rfl, rfl⟩
  rw [List.mem_reverse, List.mem_zipIdx_iff_getElem?] at hmem
  rcases List.getElem?_eq_some_iff.mp hmem with ⟨hj, hline⟩
  refine ⟨Nat.le_of_not_lt fun hlt => ?_, hj⟩
  rw [skipped, Nat.zero_add, List.drop_zero] at hlt
  have hblank : Text.allBlank line = true := by
    have hskipped := List.not_of_lt_findIdx hlt
    rw [Bool.not_eq_false'] at hskipped
    rw [← hskipped]
    exact congrArg Text.allBlank hline.symm
  rw [stopReport?_of_allBlank hblank] at hreport
  cases hreport

end Buffer
end GhciBridge
