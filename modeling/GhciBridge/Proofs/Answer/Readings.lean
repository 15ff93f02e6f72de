import GhciBridge.Proofs.Answer.Routines

/-!
# Readings in turn

No line of a buffer is lost or changed by readings one after the other: what they
took off its front and what is left make up what it held.
-/

namespace GhciBridge
namespace Buffer

/-- The ways of reading a buffer, on its own or as the answer to a command. -/
inductive Reading where
  | breakpoint
  | stopped
  | typed
  | shown
  | plain
  | history
  | bindings
  | moved
  | payload
  | any
  | answer (command : Command)

namespace Reading

def reader : Reading → Answer.Reader
  | .breakpoint => Answer.breakpoint?
  | .stopped => Answer.stopped?
  | .typed => Answer.typed?
  | .shown => Answer.shown?
  | .plain => Answer.plain?
  | .history => Answer.history?
  | .bindings => Answer.bindings?
  | .moved => Answer.moved?
  | .payload => Answer.payload?
  | .any => Answer.any?
  | .answer command => command.read?

def routine : Reading → Routine Answer
  | .breakpoint => Buffer.breakpoint
  | .stopped => Buffer.stopped
  | .typed => Buffer.typed
  | .shown => Buffer.shown
  | .plain => Buffer.plain
  | .history => Buffer.history
  | .bindings => Buffer.bindings
  | .moved => Buffer.moved
  | .payload => Buffer.payload
  | .any => Buffer.any
  | .answer command => Buffer.answerTo command

theorem acts
    (reading : Reading) (lines : List Text) :
    Acts lines (reading.reader lines) (reading.routine.on lines) := by
  cases reading with
  | breakpoint => exact acts_breakpoint lines
  | stopped => exact acts_stopped lines
  | typed => exact acts_typed lines
  | shown => exact acts_shown lines
  | plain => exact acts_plain lines
  | history => exact acts_history lines
  | bindings => exact acts_bindings lines
  | moved => exact acts_moved lines
  | payload => exact acts_payload lines
  | any => exact acts_any lines
  | answer command => exact acts_answerTo command lines

/-- What a reading makes of a buffer. -/
inductive Settles (reading : Reading) (lines : List Text) : Prop where
  | nothing
      (hreader : reading.reader lines = none)
      (hbuffer : reading.routine.on lines = some (none, lines))
  /-- The lines in front are taken: up to the first one that is not blank at least,
  and all of them if there is no such line. -/
  | taken {answer : Answer} (front rest : List Text)
      (hreader : reading.reader lines = some (answer, rest))
      (hbuffer : reading.routine.on lines = some (some answer, rest))
      (hlines : front ++ rest = lines)
      (hfirst : ∀ line, lines.find? (fun line => !Text.allBlank line) = some line →
        lines.takeWhile Text.allBlank ++ [line] <+: front)
      (hblank : (∀ line ∈ lines, Text.allBlank line = true) → rest = [])

theorem skipped_zero
    (lines : List Text) :
    skipped lines 0 = lines.findIdx fun line => !Text.allBlank line := by
  rw [skipped, Nat.zero_add, List.drop_zero]

/-- The first line that is not blank stands behind the blank ones. -/
theorem takeWhile_append_of_find?
    {lines : List Text} {line : Text}
    (h : lines.find? (fun line => !Text.allBlank line) = some line) :
    lines.takeWhile Text.allBlank ++ [line] = lines.take (skipped lines 0 + 1) := by
  rw [List.find?_eq_getElem?_findIdx, ← skipped_zero] at h
  rw [List.take_add_one, h, List.takeWhile_eq_take_findIdx_not, skipped_zero]
  rfl

theorem settles
    (reading : Reading) (lines : List Text) :
    reading.Settles lines := by
  have hacts := acts reading lines
  generalize hreader : reading.reader lines = read at hacts
  generalize hbuffer : reading.routine.on lines = result at hacts
  cases hacts with
  | nothing => exact .nothing hreader hbuffer
  | taken answer n hle hfirst =>
      refine .taken (lines.take n) (lines.drop n) hreader hbuffer
        (List.take_append_drop n lines) ?_ ?_
      · intro line hline
        have hline' := hline
        rw [List.find?_eq_getElem?_findIdx, ← skipped_zero] at hline'
        have hlt := (List.getElem?_eq_some_iff.mp hline').1
        rw [takeWhile_append_of_find? hline]
        apply List.take_prefix_take_left
        omega
      · intro hblank
        have hskipped : skipped lines 0 = lines.length := by
          rw [skipped_zero, List.findIdx_eq_length]
          intro line hmem
          rw [hblank line hmem]
          rfl
        apply List.drop_eq_nil_of_le
        omega

/-- The routine returns what the reader finds, and leaves the same lines. -/
theorem on_eq
    (reading : Reading) (lines : List Text) :
    reading.routine.on lines =
      match reading.reader lines with
      | none => some (none, lines)
      | some (found, rest) => some (some found, rest) := by
  cases settles reading lines with
  | nothing hreader hbuffer => rw [hreader, hbuffer]
  | taken front rest hreader hbuffer => rw [hreader, hbuffer]

theorem on_of_reader
    (reading : Reading) {lines rest : List Text} {answer : Answer}
    (h : reading.reader lines = some (answer, rest)) :
    reading.routine.on lines = some (some answer, rest) := by
  rw [on_eq, h]

theorem on_eq_some_iff
    (reading : Reading) {lines rest : List Text} {answer : Answer} :
    reading.routine.on lines = some (some answer, rest) ↔
      reading.reader lines = some (answer, rest) := by
  constructor
  · intro h
    rw [on_eq] at h
    split at h
    · cases h
    · next found behind hreader =>
        cases h
        exact hreader
  · intro h
    exact on_of_reader reading h

/-- Two readings make the same of some lines: they find the same answer, and leave the
same lines in the buffer. -/
structure Agree (reading other : Reading) (lines : List Text) : Prop where
  reader : reading.reader lines = other.reader lines
  routine : reading.routine.on lines = other.routine.on lines

theorem Agree.of_reader
    {reading other : Reading} {lines : List Text}
    (h : reading.reader lines = other.reader lines) :
    Agree reading other lines := by
  constructor
  · exact h
  · rw [on_eq, on_eq, h]

end Reading

/-!
## Readings one after the other
-/

/-- What a reading returned, and the lines it took. -/
structure Turn where
  answer : Option Answer
  taken : List Text

/-- Readings in turn, and what they leave of the buffer. -/
def inTurn : List Reading → List Text → Option (List Turn × List Text)
  | [], lines => some ([], lines)
  | reading :: readings, lines =>
      match reading.routine.on lines with
      | none => none
      | some (answer, rest) =>
          (inTurn readings rest).map fun (turns, last) =>
            (⟨answer, lines.take (lines.length - rest.length)⟩ :: turns, last)

theorem exists_rest
    (reading : Reading) (lines : List Text) :
    ∃ answer front rest,
      reading.routine.on lines = some (answer, rest) ∧ front ++ rest = lines := by
  have hsettles := reading.settles lines
  cases hsettles with
  | nothing hreader hbuffer => exact ⟨none, [], lines, hbuffer, rfl⟩
  | taken front rest hreader hbuffer hlines => exact ⟨_, front, rest, hbuffer, hlines⟩

theorem exists_inTurn
    (readings : List Reading) (lines : List Text) :
    ∃ turns rest,
      inTurn readings lines = some (turns, rest) ∧ turns.length = readings.length ∧
        turns.flatMap Turn.taken ++ rest = lines := by
  induction readings generalizing lines with
  | nil => exact ⟨[], lines, rfl, rfl, rfl⟩
  | cons reading readings ih =>
      rcases exists_rest reading lines with ⟨answer, front, rest, hbuffer, hlines⟩
      rcases ih rest with ⟨turns, last, hturns, hlength, hall⟩
      have htaken : lines.take (lines.length - rest.length) = front := by
        rw [← hlines, List.length_append, Nat.add_sub_cancel, List.take_left]
      refine ⟨⟨answer, front⟩ :: turns, last, ?_, congrArg Nat.succ hlength, ?_⟩
      · rw [inTurn, hbuffer]
        simp only [hturns, htaken, Option.map_some]
      · rw [List.flatMap_cons, List.append_assoc, hall, hlines]

/-- A reading that finds nothing leaves the report to the next one. -/
example :
    (inTurn [.history, .breakpoint]
      [[' '], "Breakpoint 0 activated at A.hs:3:12".toList, "done".toList]).map
        (fun (turns, rest) => (turns.map Turn.taken, rest)) =
      some ([[], [[' '], "Breakpoint 0 activated at A.hs:3:12".toList]], ["done".toList]) := by
  decide +kernel

/-- A reading that returns nothing leaves the buffer alone.  One that returns an
answer takes the front of it and leaves the rest as it was.  So nothing is lost by
readings in turn. -/
theorem all_or_nothing :
    (∀ (reading : Reading) (lines : List Text), reading.Settles lines) ∧
      ∀ (readings : List Reading) (lines : List Text),
        ∃ turns rest,
          inTurn readings lines = some (turns, rest) ∧ turns.length = readings.length ∧
            turns.flatMap Turn.taken ++ rest = lines :=
  ⟨Reading.settles, exists_inTurn⟩

end Buffer
end GhciBridge
