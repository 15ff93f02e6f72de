import GhciBridge.Proofs.Text.Trim
import GhciBridge.Session.Query

/-!
# The operations of a session

A session is driven by operations.  A query runs one command of its own and
keeps something of the answer; what becomes of the interpreter and of the queue
depends on the command alone.
-/

namespace GhciBridge

/-- A command whose callback has run, and what the callback was given. -/
structure Callback where
  command : Command
  answer : Option Answer

def Retirement.callback (retirement : Retirement) : Callback :=
  ⟨retirement.submission.command, retirement.answer⟩

namespace Session

inductive Query where
  | setBreakpoint (module : Text) (line : Nat)
  | removeBreakpoint (module : Text) (line : Nat)
  | trace (expression : Text)
  | typeOf (expression : Text)
  | evaluate (expression : Text) (typeName : Option Text)
  | history
  | bindings
  | force (expression : Text)
  | move (direction : Direction)
  | load (path : Text)
  | raw (text : Text)

inductive Operation where
  | start
  | stop
  | step (request : StepRequest)
  | query (query : Query)
  | execute (submission : Submission)
  | enqueue (submission : Submission)
  | runPending

variable {η : Type}

def command? (s : Session η) : Query → Option Command
  | .setBreakpoint module line => some (.setBreakpoint module line)
  | .removeBreakpoint module line =>
      (s.breakpoints.find? (module, line)).map fun point => .deleteBreakpoint point.number
  | .trace expression => some (.trace expression)
  | .typeOf expression => some (.typeOf expression)
  | .evaluate expression _ => some (.evaluate s.config.printer expression)
  | .history => some .history
  | .bindings => some .bindings
  | .force expression => some (.force expression)
  | .move direction => some (.move direction (some s.cursor))
  | .load path => some (.load (Text.trim path))
  | .raw text => some (.raw text)

/-- The command that a caller hands over, if the operation is given one. -/
def Operation.given? : Operation → Option Command
  | .query (.raw text) => some (.raw text)
  | .execute submission => some submission.command
  | .enqueue submission => some submission.command
  | _ => none

section Apply

variable [Host η]

def query (s : Session η) : Query → Session η
  | .setBreakpoint module line => (s.setBreakpoint module line).1
  | .removeBreakpoint module line => (s.removeBreakpoint module line).1
  | .trace expression => (s.trace expression).1
  | .typeOf expression => (s.typeOf expression).1
  | .evaluate expression typeName => (s.evaluate expression typeName).1
  | .history => s.history.1
  | .bindings => s.bindings.1
  | .force expression => (s.force expression).1
  | .move direction => (s.move direction).1
  | .load path => (s.load path).1
  | .raw text => (s.raw text).1

def apply (s : Session η) : Operation → Session η
  | .start => s.start.1
  | .stop => s.stop
  | .step request => (s.step request).1
  | .query query => s.query query
  | .execute submission => (s.execute submission).1
  | .enqueue submission => (s.enqueue submission).1
  | .runPending => s.runPending.1

def after (s : Session η) : List Operation → Session η
  | [] => s
  | operation :: operations => (s.apply operation).after operations

/-- The callback of a query's own command. -/
def ownCallback (s : Session η) : Operation → List Callback
  | .query query =>
      (s.command? query).toList.map fun command => ⟨command, (s.ask command).2.toOption.join⟩
  | _ => []

/-- The callbacks that an operation runs, in their order. -/
def callbacks (s : Session η) (operation : Operation) : List Callback :=
  s.ownCallback operation ++
    ((s.apply operation).retired.drop s.retired.length).map Retirement.callback

theorem callbacks_of_retired
    {s : Session η} {operation : Operation} {retired : List Retirement}
    (hretired : (s.apply operation).retired = s.retired ++ retired) :
    s.callbacks operation = s.ownCallback operation ++ retired.map Retirement.callback := by
  rw [callbacks, hretired, List.drop_left]

/-!
## Queries
-/

/-- The session after a query's command, before anything of the answer is kept. -/
def asked (s : Session η) : Option Command → Session η
  | none => s
  | some command => (s.ask command).1

/-- Sessions that differ in what was learnt from answers only. -/
structure Agrees (s t : Session η) : Prop where
  config : t.config = s.config
  link : t.link = s.link
  retired : t.retired = s.retired

end Apply

/-!
## The line that quits
-/

theorem line_ne_quit_of_head
    {command : Command} {c d : Char} {rest : Text} (hpayload : command.payload = c :: d :: rest)
    (hc : Text.isBlank c = false) (hd : d ≠ 'q') :
    command.line ≠ Interpreter.quit := by
  intro hline
  have hfront := Text.trimEnd_isPrefix command.payload
  have htrim : Text.trimEnd command.payload = Interpreter.quit := by
    have hstart : Text.trimStart command.payload = command.payload := by
      rw [hpayload]
      exact Text.trimStart_eq_self hc
    rw [Command.line, Text.trim, hstart] at hline
    exact hline
  rw [htrim, hpayload] at hfront
  have hsecond : 'q' = d := (List.cons_prefix_cons.mp (List.cons_prefix_cons.mp hfront).2).1
  exact hd hsecond.symm

theorem line_ne_quit_of_last
    {command : Command} {c : Char} {front : Text} (hpayload : command.payload = front ++ [c])
    (hc : Text.isBlank c = false) (hquit : c ≠ 't') :
    command.line ≠ Interpreter.quit := by
  intro hline
  rw [Command.line, hpayload, Text.trim_concat hc] at hline
  have hlast := congrArg List.getLast? hline
  rw [List.getLast?_concat] at hlast
  exact hquit (Option.some.inj hlast)

/-- The commands that a session makes up by itself never are the line that
quits. -/
theorem line_ne_quit
    {s : Session η} {query : Query} {command : Command}
    (hcommand : s.command? query = some command)
    (hgiven : ∀ given, (Operation.query query).given? = some given →
      given.line ≠ Interpreter.quit) :
    command.line ≠ Interpreter.quit := by
  cases query with
  | raw text =>
      cases hcommand
      exact hgiven _ rfl
  | evaluate expression typeName =>
      cases hcommand
      exact line_ne_quit_of_last (c := ')') rfl rfl (by decide)
  | move direction =>
      cases hcommand
      cases direction with
      | back => exact line_ne_quit_of_head (c := ':') rfl rfl (by decide)
      | forward => exact line_ne_quit_of_head (c := ':') rfl rfl (by decide)
  | removeBreakpoint module line =>
      rw [command?, Option.map_eq_some_iff] at hcommand
      rcases hcommand with ⟨point, -, rfl⟩
      exact line_ne_quit_of_head (c := ':') rfl rfl (by decide)
  | _ =>
      cases hcommand
      exact line_ne_quit_of_head (c := ':') rfl rfl (by decide)

end Session
end GhciBridge
