import GhciBridge.Proofs.Exchange.Input
import GhciBridge.Proofs.Session.Operation

/-!
# What comes of an operation

An operation gives its caller a gain or a fault.  A query draws on the answer to
its own command: a fault of the command is its fault, and else the answer is of no
use or brings a gain.  Only a gain changes what the session knows.
-/

namespace GhciBridge
namespace Session

/-- What an operation that succeeds gives its caller. -/
inductive Gain where
  | nothing
  | breakpoint (point : Breakpoint)
  | removed (found : Bool)
  | frame (frame : Option StackFrame)
  | type (text : Text)
  | value (binding : Binding)
  | frames (frames : List StackFrame)
  | bindings (list : List Binding)
  | step (step : HistoryStep)
  | answer (answer : Answer)

/-- What a session has learnt from answers. -/
structure Knowledge where
  breakpoints : Breakpoints
  cursor : Cursor

/-- What is known after an operation that succeeded.  All operations that are not
named here leave it alone. -/
def Knowledge.after (known : Knowledge) : Operation → Gain → Knowledge
  | .start, _ => { known with cursor := .start }
  | .stop, _ => { known with breakpoints := .empty }
  | .query (.setBreakpoint module line), .breakpoint point =>
      { known with breakpoints := known.breakpoints.insert (module, line) point }
  | .query (.removeBreakpoint module line), .removed true =>
      { known with breakpoints := known.breakpoints.erase (module, line) }
  | .query (.trace _), _ => { known with cursor := .start }
  | .query .history, .frames frames =>
      { known with cursor := { known.cursor with length := some frames.length } }
  | .query (.move direction), _ => { known with cursor := known.cursor.moved direction }
  | .query (.load _), _ => ⟨.empty, .start⟩
  | _, _ => known

variable {η : Type}

def knowledge (s : Session η) : Knowledge :=
  ⟨s.breakpoints, s.cursor⟩

def knowing (s : Session η) (known : Knowledge) : Session η :=
  { s with breakpoints := known.breakpoints, cursor := known.cursor }

def queued (s : Session η) : List Submission :=
  match s.link with
  | .idle _ => []
  | .live x => x.queue

theorem queued_of_live
    {s : Session η} {x : Exchange η} (hlink : s.link = .live x) :
    s.queued = x.queue := by
  rw [queued, hlink]

theorem isRunning_of_live
    {s : Session η} {x : Exchange η} (hlink : s.link = .live x) :
    s.isRunning = true := by
  rw [isRunning, hlink]
  rfl

theorem isRunning_of_idle
    {s : Session η} {host : η} (hlink : s.link = .idle host) :
    s.isRunning = false := by
  rw [isRunning, hlink]
  rfl

variable [Host η]

def queryOutcome (s : Session η) : Query → Except Fault Gain
  | .setBreakpoint module line => (s.setBreakpoint module line).2.map .breakpoint
  | .removeBreakpoint module line => (s.removeBreakpoint module line).2.map .removed
  | .trace expression => (s.trace expression).2.map .frame
  | .typeOf expression => (s.typeOf expression).2.map .type
  | .evaluate expression typeName => (s.evaluate expression typeName).2.map .value
  | .history => s.history.2.map .frames
  | .bindings => s.bindings.2.map .bindings
  | .force expression => (s.force expression).2.map .bindings
  | .move direction => (s.move direction).2.map .step
  | .load path => (s.load path).2.map fun _ => .nothing
  | .raw text => (s.raw text).2.map .answer

def outcome (s : Session η) : Operation → Except Fault Gain
  | .start => s.start.2.map fun _ => .nothing
  | .stop => .ok .nothing
  | .step request => (s.step request).2.map fun _ => .nothing
  | .query query => s.queryOutcome query
  | .execute submission => (s.execute submission).2.map fun _ => .nothing
  | .enqueue submission => (s.enqueue submission).2.map fun _ => .nothing
  | .runPending => s.runPending.2.map fun _ => .nothing

/-!
## Runs

Executing a command, running the queue and asking a question of one's own are runs
of the exchange.  A fatal fault in one of them ends the session.
-/

theorem stop_eq
    {s : Session η} {x : Exchange η} (hlink : s.link = .live x) :
    s.stop =
      { s with
        link := .idle (shutdown x).2
        breakpoints := .empty
        retired := s.retired ++ x.queue.map .unanswered } := by
  rw [stop, hlink]
  rfl

theorem afterRun_of_mild
    {s : Session η} {run : Exchange.Run η} (h : run.isFatal = false) :
    (s.afterRun run).1 =
      { s with link := .live run.exchange, retired := s.retired ++ run.retired } := by
  unfold afterRun settle
  cases hfault : run.fault with
  | none => rfl
  | some fault =>
      have hmild : fault.isFatal = false := by
        rw [Exchange.Run.isFatal, hfault] at h
        exact h
      simp only [hmild]
      rfl

theorem afterRun_of_fatal
    {s : Session η} {run : Exchange.Run η} (h : run.isFatal = true) :
    (s.afterRun run).1 =
      { s with
        link := .idle (shutdown run.exchange).2
        breakpoints := .empty
        retired := s.retired ++ run.retired ++ run.exchange.queue.map .unanswered } := by
  unfold afterRun settle
  cases hfault : run.fault with
  | none =>
      rw [Exchange.Run.isFatal, hfault] at h
      cases h
  | some fault =>
      have hfatal : fault.isFatal = true := by
        rw [Exchange.Run.isFatal, hfault] at h
        exact h
      simp only [hfatal, if_true]
      exact stop_eq rfl

/-- The run of a command that nobody submitted. -/
def consult (x : Exchange η) (command : Command) : Exchange.Run η :=
  ⟨(x.perform command).exchange, [], (x.perform command).fault⟩

theorem ask_of_idle
    {s : Session η} {host : η} (hlink : s.link = .idle host) (command : Command) :
    s.ask command = (s, .error .notRunning) := by
  rw [ask, hlink]

theorem ask_of_fault
    {s : Session η} {x : Exchange η} {command : Command} {fault : Fault}
    (hlink : s.link = .live x) (hfault : (x.perform command).fault = some fault) :
    s.ask command = ((s.afterRun (consult x command)).1, .error fault) := by
  rw [ask, hlink, afterRun, consult, retire, List.append_nil]
  simp only [hfault]

theorem ask_of_none
    {s : Session η} {x : Exchange η} {command : Command}
    (hlink : s.link = .live x) (hfault : (x.perform command).fault = none) :
    s.ask command =
      ({ s with link := .live (x.perform command).exchange },
        .ok (x.perform command).answer) := by
  rw [ask, hlink]
  simp only [hfault]
  rfl

theorem exists_live_of_ask
    {s t : Session η} {command : Command} {answer : Option Answer}
    (h : s.ask command = (t, .ok answer)) :
    ∃ x, s.link = .live x ∧ (x.perform command).fault = none ∧
      t = { s with link := .live (x.perform command).exchange } := by
  cases hlink : s.link with
  | idle host =>
      rw [ask_of_idle hlink] at h
      cases h
  | live x =>
      cases hfault : (x.perform command).fault with
      | some fault =>
          rw [ask_of_fault hlink hfault] at h
          cases h
      | none =>
          rw [ask_of_none hlink hfault, Prod.mk.injEq] at h
          exact ⟨x, rfl, hfault, h.1.symm⟩

/-- The session is running, and its interpreter answers a command with these
lines. -/
def Hears (s : Session η) (command : Command) (lines : List Text) : Prop :=
  ∃ x, s.link = .live x ∧ x.Answered command lines

theorem Hears.ask
    {s : Session η} {command : Command} {lines : List Text} (h : s.Hears command lines) :
    ∃ x, s.ask command = ({ s with link := .live x }, .ok (command.complete lines)) := by
  rcases h with ⟨x, hlink, hanswered⟩
  rcases hanswered.perform with ⟨y, hperform⟩
  have hfault : (x.perform command).fault = none := by rw [hperform]
  refine ⟨y, ?_⟩
  rw [ask_of_none hlink hfault, hperform]

theorem Hears.unique
    {s : Session η} {command : Command} {lines others : List Text}
    (h : s.Hears command lines) (hother : s.Hears command others) :
    lines = others := by
  rcases h with ⟨x, hlink, hanswered⟩
  rcases hother with ⟨y, hlink', hanswered'⟩
  rw [hlink, Link.live.injEq] at hlink'
  subst hlink'
  exact hanswered.unique hanswered'

theorem exists_hears_of_ask
    {s t : Session η} {command : Command} {answer : Option Answer}
    (h : s.ask command = (t, .ok answer)) :
    ∃ lines, s.Hears command lines ∧ command.complete lines = answer := by
  rcases exists_live_of_ask h with ⟨x, hlink, hfault, -⟩
  rcases Exchange.exists_answered hfault with ⟨lines, hanswered, hanswer⟩
  rw [ask_of_none hlink hfault, Prod.mk.injEq, Except.ok.injEq] at h
  exact ⟨lines, ⟨x, hlink, hanswered⟩, hanswer.symm.trans h.2⟩

/-!
## Queries
-/

/-- The ways in which a step draws on the answer to a command. -/
inductive Draws {α : Type} (asked : Step η (Option Answer)) (learn : α → Knowledge → Knowledge) :
    Step η α → Prop where
  | failed {t : Session η} {fault : Fault}
      (hasked : asked = (t, .error fault)) :
      Draws asked learn (t, .error fault)
  /-- The answer is of another form. -/
  | useless {t : Session η} {answer : Option Answer} {fault : Fault}
      (hasked : asked = (t, .ok answer))
      (hmild : fault.isFatal = false) :
      Draws asked learn (t, .error fault)
  | gained {t : Session η} {answer : Option Answer} (value : α)
      (hasked : asked = (t, .ok answer)) :
      Draws asked learn (t.knowing (learn value t.knowledge), .ok value)

theorem draws_setBreakpoint
    (s : Session η) (module : Text) (line : Nat) :
    Draws (s.ask (.setBreakpoint module line))
      (fun point known => known.after (.query (.setBreakpoint module line)) (.breakpoint point))
      (s.setBreakpoint module line) := by
  rw [setBreakpoint]
  split
  · exact .failed ‹_›
  · exact .gained _ ‹_›
  · exact .useless ‹_› rfl

theorem draws_removeBreakpoint
    {s : Session η} {module : Text} {line : Nat} {point : Breakpoint}
    (hpoint : s.breakpoints.find? (module, line) = some point) :
    Draws (s.ask (.deleteBreakpoint point.number))
      (fun found known => known.after (.query (.removeBreakpoint module line)) (.removed found))
      (s.removeBreakpoint module line) := by
  rw [removeBreakpoint, hpoint]
  simp only
  split
  · exact .failed ‹_›
  · exact .useless ‹_› rfl
  · exact .gained true ‹_›

theorem draws_trace
    (s : Session η) (expression : Text) :
    Draws (s.ask (.trace expression))
      (fun frame known => known.after (.query (.trace expression)) (.frame frame))
      (s.trace expression) := by
  rw [trace]
  split
  · exact .failed ‹_›
  · exact .gained _ ‹_›
  · exact .gained _ ‹_›

theorem draws_typeOf
    (s : Session η) (expression : Text) :
    Draws (s.ask (.typeOf expression)) (fun _ known => known) (s.typeOf expression) := by
  rw [typeOf]
  split
  · exact .failed ‹_›
  · exact .gained _ ‹_›
  · exact .useless ‹_› rfl

theorem draws_evaluate
    (s : Session η) (expression : Text) (typeName : Option Text) :
    Draws (s.ask (.evaluate s.config.printer expression)) (fun _ known => known)
      (s.evaluate expression typeName) := by
  rw [evaluate]
  split
  · exact .failed ‹_›
  · unfold Answer.value
    split
    · exact .gained _ ‹_›
    · exact .useless ‹_› rfl

theorem draws_history
    (s : Session η) :
    Draws (s.ask .history)
      (fun frames known => known.after (.query .history) (.frames frames))
      s.history := by
  rw [history]
  split
  · exact .failed ‹_›
  · exact .gained _ ‹_›
  · exact .useless ‹_› rfl

theorem draws_bindings
    (s : Session η) :
    Draws (s.ask .bindings) (fun _ known => known) s.bindings := by
  rw [bindings]
  split
  · exact .failed ‹_›
  · exact .gained _ ‹_›
  · exact .useless ‹_› rfl

theorem draws_force
    (s : Session η) (expression : Text) :
    Draws (s.ask (.force expression)) (fun _ known => known) (s.force expression) := by
  rw [force]
  split
  · exact .failed ‹_›
  · exact .gained _ ‹_›
  · exact .useless ‹_› rfl

theorem draws_move
    (s : Session η) (direction : Direction) :
    Draws (s.ask (.move direction (some s.cursor)))
      (fun step known => known.after (.query (.move direction)) (.step step))
      (s.move direction) := by
  rw [move]
  split
  · exact .failed ‹_›
  · exact .gained _ ‹_›
  · exact .useless ‹_› rfl

theorem draws_load
    (s : Session η) (path : Text) :
    Draws (s.ask (.load (Text.trim path)))
      (fun _ known => known.after (.query (.load path)) .nothing)
      (s.load path) := by
  rw [load]
  split
  · exact .failed ‹_›
  · exact .useless ‹_› rfl
  · exact .gained _ ‹_›

theorem draws_raw
    (s : Session η) (text : Text) :
    Draws (s.ask (.raw text)) (fun _ known => known) (s.raw text) := by
  rw [raw]
  split
  · exact .failed ‹_›
  · exact .useless ‹_› rfl
  · exact .gained _ ‹_›

/-- The ways in which a query ends. -/
inductive Inquiry (s : Session η) (query : Query) : Prop where
  /-- There is no breakpoint to remove. -/
  | unasked
      (hcommand : s.command? query = none)
      (hquery : s.query query = s)
      (houtcome : s.queryOutcome query = .ok (.removed false))
      (hknown : s.knowledge.after (.query query) (.removed false) = s.knowledge)
  | failed {command : Command} {t : Session η} {fault : Fault}
      (hcommand : s.command? query = some command)
      (hask : s.ask command = (t, .error fault))
      (hquery : s.query query = t)
      (houtcome : s.queryOutcome query = .error fault)
  | useless {command : Command} {t : Session η} {answer : Option Answer} {fault : Fault}
      (hcommand : s.command? query = some command)
      (hask : s.ask command = (t, .ok answer))
      (hquery : s.query query = t)
      (houtcome : s.queryOutcome query = .error fault)
      (hmild : fault.isFatal = false)
  | gained {command : Command} {t : Session η} {answer : Option Answer} {gain : Gain}
      (hcommand : s.command? query = some command)
      (hask : s.ask command = (t, .ok answer))
      (hquery : s.query query = t.knowing (t.knowledge.after (.query query) gain))
      (houtcome : s.queryOutcome query = .ok gain)

theorem Inquiry.of_draws
    {α : Type} {s : Session η} {query : Query} {command : Command} {step : Step η α}
    {gain : α → Gain} (hcommand : s.command? query = some command)
    (hquery : s.query query = step.1) (houtcome : s.queryOutcome query = step.2.map gain)
    (hdraws :
      Draws (s.ask command) (fun value known => known.after (.query query) (gain value)) step) :
    s.Inquiry query := by
  cases hdraws with
  | failed hasked => exact .failed hcommand hasked hquery houtcome
  | useless hasked hmild => exact .useless hcommand hasked hquery houtcome hmild
  | gained value hasked => exact .gained hcommand hasked hquery houtcome

theorem inquiry
    (s : Session η) (query : Query) :
    s.Inquiry query := by
  cases query with
  | setBreakpoint module line => exact .of_draws rfl rfl rfl (draws_setBreakpoint s module line)
  | removeBreakpoint module line =>
      cases hpoint : s.breakpoints.find? (module, line) with
      | none =>
          have hstep : s.removeBreakpoint module line = (s, .ok false) := by
            rw [removeBreakpoint, hpoint]
          refine .unasked ?_ (congrArg Prod.fst hstep) ?_ rfl
          · rw [command?, hpoint]
            rfl
          · rw [queryOutcome, hstep]
            rfl
      | some point =>
          refine .of_draws ?_ rfl rfl (draws_removeBreakpoint hpoint)
          rw [command?, hpoint]
          rfl
  | trace expression => exact .of_draws rfl rfl rfl (draws_trace s expression)
  | typeOf expression => exact .of_draws rfl rfl rfl (draws_typeOf s expression)
  | evaluate expression typeName =>
      exact .of_draws rfl rfl rfl (draws_evaluate s expression typeName)
  | history => exact .of_draws rfl rfl rfl (draws_history s)
  | bindings => exact .of_draws rfl rfl rfl (draws_bindings s)
  | force expression => exact .of_draws rfl rfl rfl (draws_force s expression)
  | move direction => exact .of_draws rfl rfl rfl (draws_move s direction)
  | load path => exact .of_draws rfl rfl rfl (draws_load s path)
  | raw text => exact .of_draws rfl rfl rfl (draws_raw s text)

/-- What a query does to the interpreter and to the queue depends on its command
alone. -/
theorem agrees_query
    (s : Session η) (query : Query) :
    (s.asked (s.command? query)).Agrees (s.query query) := by
  have hinquiry := inquiry s query
  cases hinquiry with
  | unasked hcommand hquery =>
      rw [hcommand, hquery]
      exact ⟨rfl, rfl, rfl⟩
  | failed hcommand hask hquery =>
      rw [hcommand, asked, hask, hquery]
      exact ⟨rfl, rfl, rfl⟩
  | useless hcommand hask hquery =>
      rw [hcommand, asked, hask, hquery]
      exact ⟨rfl, rfl, rfl⟩
  | gained hcommand hask hquery =>
      rw [hcommand, asked, hask, hquery]
      exact ⟨rfl, rfl, rfl⟩

/-!
## Starts
-/

/-- The lines that are written to an interpreter in order to start it. -/
def promptLines (config : Config) : List Text :=
  ([config.promptCommand].filter fitsInput).map inputLine

theorem host_shutdown_eq
    (x : Exchange η) :
    (shutdown x).2 = Peer.reap (Peer.fed x.peer [inputLine Interpreter.quit]) := by
  have hfits : fitsInput Interpreter.quit = true := by decide
  have hpeer := Exchange.peer_sendLine x.failPending.exchange Interpreter.quit
  rw [List.filter_cons_of_pos hfits] at hpeer
  exact congrArg Peer.reap hpeer

theorem installPrompt_keeps
    (config : Config) (x : Exchange η) :
    (installPrompt config x).1.queue = x.queue ∧
      (installPrompt config x).1.peer = Peer.fed x.peer (promptLines config) := by
  have hqueue := Exchange.queue_sendLine x config.promptCommand
  have hpeer := Exchange.peer_sendLine x config.promptCommand
  rw [installPrompt]
  rcases hsend : x.sendLine config.promptCommand with ⟨y, fault⟩
  rw [hsend] at hqueue hpeer
  cases fault with
  | some fault => exact ⟨hqueue, hpeer⟩
  | none =>
      have hqueue' := Exchange.queue_receive y Exchange.startup config.startupTimeout
      have hpeer' := Exchange.peer_receive y Exchange.startup config.startupTimeout
      rcases hwait : y.waitForPrompt config.startupTimeout with ⟨z, lines⟩
      rw [← Exchange.waitForPrompt, hwait] at hqueue' hpeer'
      simp only [hwait]
      cases lines with
      | ok lines => exact ⟨hqueue'.trans hqueue, hpeer'.trans hpeer⟩
      | error fault => exact ⟨hqueue'.trans hqueue, hpeer'.trans hpeer⟩

/-- Whether an operation starts an interpreter and cannot start the reader of its output. -/
def lacksReader (s : Session η) : Operation → Bool
  | .start =>
      match s.link with
      | .live _ => false
      | .idle host =>
          s.config.flaw?.isNone &&
            (Host.launch host s.config.ghciPath (s.config.ghciArgs ++ s.module.toList)).any
              fun launched => !Host.canRead launched.2
  | _ => false

/-- The ways in which a start ends. -/
inductive Begins (s : Session η) : Step η Unit → Prop where
  | refused {fault : Fault}
      (hreader : s.lacksReader .start = false)
      (hmild : s.isRunning = true → fault.isFatal = false) :
      Begins s (s, .error fault)
  /-- There is an interpreter, but no reader. -/
  | unread {host launched : η} {speech : Speech}
      (hidle : s.link = .idle host)
      (hlaunch : Host.launch host s.config.ghciPath (s.config.ghciArgs ++ s.module.toList) =
        some (speech, launched))
      (hreader : s.lacksReader .start = true) :
      Begins s ({ s with link := .idle (Host.abandon launched) }, .error .io)
  | failed {host launched : η} {speech : Speech} {fault : Fault}
      (hidle : s.link = .idle host)
      (hlaunch : Host.launch host s.config.ghciPath (s.config.ghciArgs ++ s.module.toList) =
        some (speech, launched))
      (hreader : s.lacksReader .start = false) :
      Begins s
        ({ s with
            link := .idle (Peer.reap
              (Peer.fed launched (promptLines s.config ++ [inputLine Interpreter.quit]))) },
          .error fault)
  | started {host launched : η} {speech : Speech} {x : Exchange η}
      (hidle : s.link = .idle host)
      (hlaunch : Host.launch host s.config.ghciPath (s.config.ghciArgs ++ s.module.toList) =
        some (speech, launched))
      (hreader : s.lacksReader .start = false)
      (hpeer : x.peer = Peer.fed launched (promptLines s.config))
      (hqueue : x.queue = []) :
      Begins s ({ s with link := .live x, cursor := .start }, .ok ())

theorem begins
    (s : Session η) :
    Begins s s.start := by
  rw [start]
  cases hlink : s.link with
  | live x =>
      refine .refused ?_ fun _ => rfl
      rw [lacksReader, hlink]
  | idle host =>
      have hnever : ∀ fault : Fault, s.isRunning = true → fault.isFatal = false := by
        intro fault hrunning
        rw [isRunning_of_idle hlink] at hrunning
        cases hrunning
      simp only
      split
      · next flaw hflaw =>
          refine .refused ?_ (hnever _)
          rw [lacksReader, hlink]
          simp only [hflaw, Option.isNone_some, Bool.false_and]
      · next hflaw =>
          split
          · next hlaunch =>
              refine .refused ?_ (hnever _)
              rw [lacksReader, hlink]
              simp only [hlaunch, Option.any_none, Bool.and_false]
          · next speech launched hlaunch =>
              have hreader : s.lacksReader .start = !Host.canRead launched := by
                rw [lacksReader, hlink]
                simp only [hflaw, hlaunch, Option.isNone_none, Option.any_some, Bool.true_and]
              cases hread : Host.canRead launched with
              | false =>
                  rw [hread] at hreader
                  exact .unread hlink hlaunch hreader
              | true =>
                  rw [hread] at hreader
                  have hkeeps := installPrompt_keeps s.config (greet s.config launched speech)
                  rcases hinstall : installPrompt s.config (greet s.config launched speech) with
                    ⟨x, fault⟩
                  rw [hinstall] at hkeeps
                  rcases hkeeps with ⟨hqueue, hpeer⟩
                  cases fault with
                  | none => exact .started hlink hlaunch hreader hpeer hqueue
                  | some fault =>
                      have hhost := host_shutdown_eq x
                      rw [hpeer, ← Peer.fed_append] at hhost
                      simp only [if_true]
                      rw [hhost]
                      exact .failed hlink hlaunch hreader

end Session
end GhciBridge
