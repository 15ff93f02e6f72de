import GhciBridge.Proofs.Diagnostic.Error
import GhciBridge.Proofs.Session.Outcome

/-!
# Errors of the interpreter are refused

An answer in which some line reports an error is no answer to a command that asks
for a value, for a type or for bindings.  Each query that sends such a command has
its own fault for that, and the session goes on as if it had not been made.
-/

namespace GhciBridge
namespace Session

variable {η : Type} [Host η]

/-- The fault of a query whose command was answered by an error. -/
def Query.refusal? (command : Command) : Query → Option Fault
  | .typeOf expression => some (.untyped (Text.trim expression))
  | .evaluate expression _ => some (.evaluation (Text.trim expression))
  | .force expression => some (.evaluation (Text.trim expression))
  | .bindings => some (.unreadable command.line)
  | .removeBreakpoint _ _ => some (.unreadable command.line)
  | .load _ => some (.unreadable command.line)
  | _ => none

omit [Host η] in
theorem refusesErrors_of_refusal?
    {s : Session η} {query : Query} {command : Command} {fault : Fault}
    (hcommand : s.command? query = some command) (hfault : query.refusal? command = some fault) :
    command.refusesErrors = true := by
  cases query with
  | typeOf expression =>
      cases hcommand
      rfl
  | evaluate expression typeName =>
      cases hcommand
      rfl
  | force expression =>
      cases hcommand
      rfl
  | bindings =>
      cases hcommand
      rfl
  | removeBreakpoint module line =>
      rw [command?, Option.map_eq_some_iff] at hcommand
      rcases hcommand with ⟨point, -, rfl⟩
      rfl
  | load path =>
      cases hcommand
      rfl
  | _ => cases hfault

/-- A query that gets no answer to its command keeps nothing. -/
theorem query_of_no_answer
    {s t : Session η} {query : Query} {command : Command} {fault : Fault}
    (hcommand : s.command? query = some command) (hfault : query.refusal? command = some fault)
    (hask : s.ask command = (t, .ok none)) :
    s.query query = t ∧ s.queryOutcome query = .error fault := by
  cases query with
  | typeOf expression =>
      cases hcommand
      cases hfault
      rw [Session.query, queryOutcome, typeOf, hask]
      exact ⟨rfl, rfl⟩
  | evaluate expression typeName =>
      cases hcommand
      cases hfault
      rw [Session.query, queryOutcome, evaluate, hask]
      exact ⟨rfl, rfl⟩
  | force expression =>
      cases hcommand
      cases hfault
      rw [Session.query, queryOutcome, force, hask]
      exact ⟨rfl, rfl⟩
  | bindings =>
      cases hcommand
      cases hfault
      rw [Session.query, queryOutcome, bindings, hask]
      exact ⟨rfl, rfl⟩
  | removeBreakpoint module line =>
      rw [command?, Option.map_eq_some_iff] at hcommand
      rcases hcommand with ⟨point, hpoint, rfl⟩
      cases hfault
      have hstep : s.removeBreakpoint module line =
          (t, .error (unreadable (.deleteBreakpoint point.number))) := by
        rw [removeBreakpoint, hpoint]
        simp only [hask]
      rw [Session.query, queryOutcome, hstep]
      exact ⟨rfl, rfl⟩
  | load path =>
      cases hcommand
      cases hfault
      rw [Session.query, queryOutcome, load, hask]
      exact ⟨rfl, rfl⟩
  | _ => cases hfault

/-- An error among the lines of an answer, wherever it stands between warnings and
other lines, is never read as a value: the command is completed with nothing, the
error stays in the buffer, and the query fails with its own fault and leaves the
session as it was. -/
theorem errors_are_no_values
    {lines : List Text} (herror : Diagnostic.anyError lines = true) :
    (∀ command : Command, command.refusesErrors = true →
      command.complete lines = none ∧
        ∃ rest, (Buffer.answerTo command).on (Diagnostic.withoutWarnings lines) =
            some (none, rest) ∧
          ∀ line ∈ lines, Diagnostic.isError line = true → line ∈ rest) ∧
      ∀ (s : Session η) (query : Query) (command : Command) (fault : Fault),
        s.command? query = some command → query.refusal? command = some fault →
        s.Hears command lines →
          s.outcome (.query query) = .error fault ∧
            (s.apply (.query query)).isRunning = true ∧
            (s.apply (.query query)).breakpoints = s.breakpoints ∧
            (s.apply (.query query)).cursor = s.cursor := by
  constructor
  · intro command hcommand
    have hrest := Diagnostic.anyError_withoutWarnings herror
    refine ⟨Command.complete_of_anyError hcommand herror, _,
      Buffer.answerTo_of_anyError hcommand hrest, ?_⟩
    intro line hmem hline
    exact Diagnostic.mem_withoutWarnings_of_isError hmem hline
  · intro s query command fault hcommand hfault hhears
    rcases hhears.ask with ⟨x, hask⟩
    have hrefuses := refusesErrors_of_refusal? hcommand hfault
    rw [Command.complete_of_anyError hrefuses herror] at hask
    rcases query_of_no_answer hcommand hfault hask with ⟨hquery, houtcome⟩
    have happly : s.apply (.query query) = { s with link := .live x } := hquery
    rw [happly]
    exact ⟨houtcome, rfl, rfl, rfl⟩

/-- An interpreter that warns and fails. -/
def warningScript : Script where
  path := "ghci".toList
  banner := []
  startup := .ofText []
  answers := [.ofText "A.hs:1:1: warning:\n b\nA.hs:1:1: error:\n".toList]
  sentinel := Config.default.sentinel

def warned : Session Interpreter :=
  (Session.new Config.default none (.ofScript warningScript)).after [.start]

def warnedLines : List Text :=
  ["A.hs:1:1: warning:", " b", "A.hs:1:1: error:"].map String.toList

/-- A session that has been started refuses an error behind a warning. -/
theorem error_behind_warning_refused :
    Diagnostic.anyError warnedLines = true ∧
      warned.Hears (.typeOf " x".toList) warnedLines ∧
      (Command.typeOf " x".toList).complete warnedLines = none ∧
      warned.outcome (.query (.typeOf " x".toList)) = .error (.untyped "x".toList) := by
  have herror : Diagnostic.anyError warnedLines = true := by decide +kernel
  have hhears : warned.Hears (.typeOf " x".toList) warnedLines :=
    ⟨_, rfl, rfl, rfl, _, _, rfl, rfl⟩
  rcases @errors_are_no_values Interpreter _ _ herror with ⟨hcommands, hqueries⟩
  exact ⟨herror, hhears, (hcommands _ rfl).1, (hqueries _ _ _ _ rfl rfl hhears).1⟩

end Session
end GhciBridge
