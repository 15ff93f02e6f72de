import GhciBridge.Breakpoints
import GhciBridge.Config.Basic
import GhciBridge.Interpreter.Basic

/-!
# Debug sessions

A session starts an interpreter, talks to it through an exchange, and keeps what
it learns: the breakpoints that are set and the place in the evaluation history.
A fatal fault ends the session.

The session also keeps a log of all the submitted commands it has retired.
-/

namespace GhciBridge

/-- A session is idle, with a host that could start an interpreter, or live. -/
inductive Link (η : Type) where
  | idle (host : η)
  | live (exchange : Exchange η)

namespace Link

def host : Link η → η
  | .idle host => host
  | .live exchange => exchange.peer

def isLive : Link η → Bool
  | .idle _ => false
  | .live _ => true

end Link

structure Session (η : Type) where
  config : Config
  /-- The module to load when the interpreter starts. -/
  module : Option Text
  link : Link η
  breakpoints : Breakpoints
  cursor : Cursor
  retired : List Retirement

namespace Session

def new (config : Config) (module : Option Text) (host : η) : Session η :=
  ⟨config, module, .idle host, .empty, .start, []⟩

def isRunning (s : Session η) : Bool :=
  s.link.isLive

/-- A session after an operation, and what came of that. -/
abbrev Step (η : Type) (α : Type) := Session η × Except Fault α

/-- Commands are retired. -/
def retire (s : Session η) (retirements : List Retirement) : Session η :=
  { s with retired := s.retired ++ retirements }

/-!
## Start and end
-/

/-- Ends an exchange: what is queued is retired, and the interpreter is told to
quit.  It does not matter whether it still listens, since it is killed if it does
not end. -/
def shutdown [Peer η] (x : Exchange η) : List Retirement × η :=
  let run := x.failPending
  (run.retired, Peer.reap (run.exchange.sendLine Interpreter.quit).1.peer)

/-- Ends the interpreter.  An idle session stays as it is. -/
def stop [Peer η] (s : Session η) : Session η :=
  match s.link with
  | .idle _ => s
  | .live x =>
      let (retirements, host) := shutdown x
      { s with link := .idle host, breakpoints := .empty }.retire retirements

/-- Makes the sentinel the prompt.  Everything up to the first one is no
answer. -/
def installPrompt [Peer η] (config : Config) (x : Exchange η) : Exchange η × Option Fault :=
  match x.sendLine config.promptCommand with
  | (x, some fault) => (x, some fault)
  | (x, none) =>
      match x.waitForPrompt config.startupTimeout with
      | (x, .ok _) => (x, none)
      | (x, .error fault) => (x, some fault)

/-- The exchange with an interpreter that has just been started. -/
def greet (config : Config) (host : η) (speech : Speech) : Exchange η :=
  (Exchange.start host config.sentinel config.responseTimeout).hear speech

/-- Starts the interpreter, and then the reader of its output.  Without a reader
the interpreter is given up as it is: it is not told to quit. -/
def start [Host η] (s : Session η) : Step η Unit :=
  match s.link with
  | .live _ => (s, .error .alreadyRunning)
  | .idle host =>
      match s.config.flaw? with
      | some flaw => (s, .error (.config flaw))
      | none =>
          match Host.launch host s.config.ghciPath (s.config.ghciArgs ++ s.module.toList) with
          | none => (s, .error .io)
          | some (speech, host) =>
              if Host.canRead host then
                match installPrompt s.config (greet s.config host speech) with
                | (x, none) => ({ s with link := .live x, cursor := .start }, .ok ())
                | (x, some fault) => ({ s with link := .idle (shutdown x).2 }, .error fault)
              else
                ({ s with link := .idle (Host.abandon host) }, .error .io)

/-!
## Submitted commands
-/

/-- The session after its exchange ended an operation with or without a fault. -/
def settle [Peer η] (s : Session η) (x : Exchange η) (fault : Option Fault) : Session η :=
  let s := { s with link := .live x }
  match fault with
  | some fault => if fault.isFatal then s.stop else s
  | none => s

/-- What an operation comes to that can only fail or succeed. -/
def result : Option Fault → Except Fault Unit
  | none => .ok ()
  | some fault => .error fault

/-- The session after a run of its exchange. -/
def afterRun [Peer η] (s : Session η) (run : Exchange.Run η) : Step η Unit :=
  ((s.retire run.retired).settle run.exchange run.fault, result run.fault)

/-- Runs a command at once. -/
def execute [Peer η] (s : Session η) (submission : Submission) : Step η Unit :=
  match s.link with
  | .idle _ => (s.retire [.unanswered submission], .error .notRunning)
  | .live x => s.afterRun (x.execute submission)

/-- Queues a command. -/
def enqueue (s : Session η) (submission : Submission) : Step η Unit :=
  match s.link with
  | .idle _ => (s.retire [.unanswered submission], .error .notRunning)
  | .live x => ({ s with link := .live (x.enqueue submission) }, .ok ())

/-- Runs the queued commands. -/
def runPending [Peer η] (s : Session η) : Step η Unit :=
  match s.link with
  | .idle _ => (s, .error .notRunning)
  | .live x => s.afterRun x.runPending

end Session
end GhciBridge
