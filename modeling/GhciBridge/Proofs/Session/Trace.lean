import GhciBridge.Proofs.Answer.Stop
import GhciBridge.Proofs.Session.Refusal
import GhciBridge.Proofs.Session.Trail

/-!
# What a trace tells

A trace looks for the report of a stop in its answer and for nothing else.  Without one
it tells that the expression ran to completion, and the place in the history is
forgotten.  An error of the interpreter makes no difference.  So a trace that failed is
told from one that ran to completion exactly as long as no answer reports an error
without a stop.
-/

namespace GhciBridge
namespace Session

/-!
## Answers to a trace
-/

/-- The frame in which an answer reports that the program stopped. -/
def stopFrame? (lines : List Text) : Option StackFrame :=
  (Answer.lastStop? (Diagnostic.withoutWarnings lines)).map fun (span, behind) =>
    .top ⟨span, some (Binding.readAll behind).1⟩

/-- The expression could not be traced: there is an error and no stop. -/
structure TraceFailed (lines : List Text) : Prop where
  error : Diagnostic.anyError lines = true
  unstopped : ∀ line ∈ Diagnostic.withoutWarnings lines, Answer.stopReport? line = none

/-- The expression was evaluated to the end: there is neither an error nor a stop. -/
structure TraceFinished (lines : List Text) : Prop where
  quiet : Diagnostic.anyError lines = false
  unstopped : ∀ line ∈ Diagnostic.withoutWarnings lines, Answer.stopReport? line = none

theorem stopFrame?_eq_none_iff
    {lines : List Text} :
    stopFrame? lines = none ↔
      ∀ line ∈ Diagnostic.withoutWarnings lines, Answer.stopReport? line = none := by
  rw [stopFrame?, Option.map_eq_none_iff]
  exact Answer.lastStop?_eq_none_iff

theorem complete_trace
    (expression : Text) (lines : List Text) :
    (Command.trace expression).complete lines = (stopFrame? lines).map .stopped := by
  rw [Command.complete, Command.read?, Answer.stopped?, stopFrame?, Option.map_map,
    Option.map_map]
  rfl

/-!
## Sessions
-/

variable {η : Type} [Host η]

/-- A query that brings a gain was answered. -/
theorem exists_hears_of_queryOutcome
    {s : Session η} {query : Query} {command : Command} {gain : Gain}
    (hcommand : s.command? query = some command) (houtcome : s.queryOutcome query = .ok gain) :
    ∃ lines, s.Hears command lines := by
  cases s.inquiry query with
  | unasked hnone =>
      rw [hnone] at hcommand
      cases hcommand
  | failed _ _ _ herror =>
      rw [herror] at houtcome
      cases houtcome
  | useless _ _ _ herror =>
      rw [herror] at houtcome
      cases houtcome
  | gained hcommand' hask =>
      rw [hcommand', Option.some.injEq] at hcommand
      subst hcommand
      rcases exists_hears_of_ask hask with ⟨lines, hhears, -⟩
      exact ⟨lines, hhears⟩

/-- A query that fails leaves the place in the history. -/
theorem cursor_of_queryOutcome
    {s : Session η} {query : Query} {fault : Fault}
    (houtcome : s.queryOutcome query = .error fault) :
    (s.query query).cursor = s.cursor := by
  cases s.inquiry query with
  | unasked hcommand hquery => rw [hquery]
  | failed hcommand hask hquery => rw [hquery, cursor_of_ask hask]
  | useless hcommand hask hquery => rw [hquery, cursor_of_ask hask]
  | gained _ _ _ hgain =>
      rw [hgain] at houtcome
      cases houtcome

theorem Hears.trace
    {s : Session η} {expression : Text} {lines : List Text}
    (h : s.Hears (.trace expression) lines) :
    s.outcome (.query (.trace expression)) = .ok (.frame (stopFrame? lines)) ∧
      (s.apply (.query (.trace expression))).cursor = .start := by
  rcases h.ask with ⟨x, hask⟩
  rw [complete_trace] at hask
  rw [outcome, queryOutcome, apply, Session.query, Session.trace, hask]
  cases stopFrame? lines with
  | none => exact ⟨rfl, rfl⟩
  | some frame => exact ⟨rfl, rfl⟩

/-- A trace that failed is a fault and leaves the place in the history, and a trace
gives no frame only if the expression was evaluated to the end. -/
structure TellsFailures (s : Session η) (expression : Text) : Prop where
  refused : ∀ lines, s.Hears (.trace expression) lines → TraceFailed lines →
    (∃ fault, s.outcome (.query (.trace expression)) = .error fault) ∧
      (s.apply (.query (.trace expression))).cursor = s.cursor
  finished : s.outcome (.query (.trace expression)) = .ok (.frame none) →
    ∃ lines, s.Hears (.trace expression) lines ∧ TraceFinished lines

/-- What comes of a trace is told by the stop in its answer alone, and any answer takes
the session back to the start of the history; only without an answer the trace fails
and the place is left.  So the failures of a session are told as long as no answer is
one. -/
theorem trace_tells_failures_iff
    (s : Session η) (expression : Text) :
    (∀ lines, s.Hears (.trace expression) lines →
      s.outcome (.query (.trace expression)) = .ok (.frame (stopFrame? lines)) ∧
        (s.apply (.query (.trace expression))).cursor = .start) ∧
    (∀ fault, s.outcome (.query (.trace expression)) = .error fault →
      (∀ lines, ¬ s.Hears (.trace expression) lines) ∧
        (s.apply (.query (.trace expression))).cursor = s.cursor) ∧
    (s.TellsFailures expression ↔
      ∀ lines, s.Hears (.trace expression) lines → ¬ TraceFailed lines) := by
  refine ⟨fun lines hhears => hhears.trace, ?_, ?_⟩
  · intro fault houtcome
    refine ⟨?_, cursor_of_queryOutcome houtcome⟩
    intro lines hhears
    rw [hhears.trace.1] at houtcome
    cases houtcome
  · constructor
    · intro h lines hhears hfailed
      rcases (h.refused lines hhears hfailed).1 with ⟨fault, hfault⟩
      rw [hhears.trace.1] at hfault
      cases hfault
    · intro hnever
      constructor
      · intro lines hhears hfailed
        exact absurd hfailed (hnever lines hhears)
      · intro houtcome
        have hcommand : s.command? (.trace expression) = some (.trace expression) := rfl
        rcases exists_hears_of_queryOutcome hcommand houtcome with ⟨lines, hhears⟩
        rw [hhears.trace.1, Except.ok.injEq, Gain.frame.injEq] at houtcome
        have hunstopped := stopFrame?_eq_none_iff.mp houtcome
        refine ⟨lines, hhears, ?_, hunstopped⟩
        rw [← Bool.not_eq_true]
        exact fun herror => hnever lines hhears ⟨herror, hunstopped⟩

/-- An interpreter that stops, steps back and then knows no `foo`. -/
def outOfScopeScript : Script where
  path := "ghci".toList
  banner := []
  startup := .ofText []
  answers := [
    .ofText "Stopped at A.hs:2:1\n".toList,
    .ofText "Logged breakpoint at A.hs:1:1\n".toList,
    .ofText "<interactive>:1:1: error: Variable not in scope: foo\n".toList]
  sentinel := Config.default.sentinel

def outOfScope : Session Interpreter :=
  (Session.new Config.default none (.ofScript outOfScopeScript)).after
    [.start, .query (.trace "f".toList), .query (.move .back)]

/-- The error that forcing an expression refuses is the end of the evaluation to a
trace, and the step back is forgotten. -/
theorem failed_trace_told_as_finished :
    let lines := ["<interactive>:1:1: error: Variable not in scope: foo".toList]
    outOfScope.Hears (.trace "foo".toList) lines ∧ TraceFailed lines ∧
      outOfScope.outcome (.query (.force "foo".toList)) = .error (.evaluation "foo".toList) ∧
      outOfScope.outcome (.query (.trace "foo".toList)) = .ok (.frame none) ∧
      outOfScope.cursor = ⟨1, none⟩ ∧
      (outOfScope.apply (.query (.trace "foo".toList))).cursor = .start ∧
      ¬ outOfScope.TellsFailures "foo".toList := by
  intro lines
  have hhears : outOfScope.Hears (.trace "foo".toList) lines := ⟨_, rfl, rfl, rfl, _, _, rfl, rfl⟩
  have hfailed : TraceFailed lines := by
    constructor
    · decide +kernel
    · decide +kernel
  have htrace := hhears.trace
  have hframe : stopFrame? lines = none := stopFrame?_eq_none_iff.mpr hfailed.unstopped
  rw [hframe] at htrace
  refine ⟨hhears, hfailed, rfl, htrace.1, rfl, htrace.2, ?_⟩
  intro h
  rcases (h.refused lines hhears hfailed).1 with ⟨fault, hfault⟩
  rw [htrace.1] at hfault
  cases hfault

end Session
end GhciBridge
