import GhciBridge.Session.Basic

/-!
# Queries

A query runs one command and turns its answer into what the caller asked for.
An answer of another form is a fault of that query alone; the session goes on as
if it had not been made.
-/

namespace GhciBridge
namespace Session

/-- Runs a command of the session's own, for its answer. -/
def ask [Peer η] (s : Session η) (command : Command) : Step η (Option Answer) :=
  match s.link with
  | .idle _ => (s, .error .notRunning)
  | .live x =>
      let outcome := x.perform command
      (s.settle outcome.exchange outcome.fault,
        match outcome.fault with
        | some fault => .error fault
        | none => .ok outcome.answer)

/-- The fault of a command whose answer could not be read. -/
def unreadable (command : Command) : Fault :=
  .unreadable command.line

def setBreakpoint [Peer η] (s : Session η) (module : Text) (line : Nat) : Step η Breakpoint :=
  let command : Command := .setBreakpoint module line
  match s.ask command with
  | (s, .error fault) => (s, .error fault)
  | (s, .ok (some (.breakpoint number span))) =>
      let point : Breakpoint := ⟨number, span⟩
      ({ s with breakpoints := s.breakpoints.insert (module, line) point }, .ok point)
  | (s, .ok _) => (s, .error (unreadable command))

/-- Removes a breakpoint; tells whether there was one. -/
def removeBreakpoint [Peer η] (s : Session η) (module : Text) (line : Nat) : Step η Bool :=
  match s.breakpoints.find? (module, line) with
  | none => (s, .ok false)
  | some point =>
      let command : Command := .deleteBreakpoint point.number
      match s.ask command with
      | (s, .error fault) => (s, .error fault)
      | (s, .ok none) => (s, .error (unreadable command))
      | (s, .ok (some _)) =>
          ({ s with breakpoints := s.breakpoints.erase (module, line) }, .ok true)

/-- Evaluates an expression up to a breakpoint; no frame means that none was
reached. -/
def trace [Peer η] (s : Session η) (expression : Text) : Step η (Option StackFrame) :=
  match s.ask (.trace expression) with
  | (s, .error fault) => (s, .error fault)
  | (s, .ok (some (.stopped frame))) => ({ s with cursor := .start }, .ok (some frame))
  | (s, .ok _) => ({ s with cursor := .start }, .ok none)

def typeOf [Peer η] (s : Session η) (expression : Text) : Step η Text :=
  match s.ask (.typeOf expression) with
  | (s, .error fault) => (s, .error fault)
  | (s, .ok (some (.typed _ type))) => (s, .ok type)
  | (s, .ok _) => (s, .error (.untyped (Text.trim expression)))

/-- The value of an expression through the configured printer. -/
def evaluate [Peer η] (s : Session η) (expression : Text) (typeName : Option Text) :
    Step η Binding :=
  match s.ask (.evaluate s.config.printer expression) with
  | (s, .error fault) => (s, .error fault)
  | (s, .ok answer) => (s, Answer.value (Text.trim expression) typeName answer)

def history [Peer η] (s : Session η) : Step η (List StackFrame) :=
  match s.ask .history with
  | (s, .error fault) => (s, .error fault)
  | (s, .ok (some (.history frames))) =>
      ({ s with cursor := { s.cursor with length := some frames.length } }, .ok frames)
  | (s, .ok _) => (s, .error (unreadable .history))

def bindings [Peer η] (s : Session η) : Step η (List Binding) :=
  match s.ask .bindings with
  | (s, .error fault) => (s, .error fault)
  | (s, .ok (some (.bindingList list))) => (s, .ok list)
  | (s, .ok _) => (s, .error (unreadable .bindings))

/-- Forces an expression; gives the bindings that came of it. -/
def force [Peer η] (s : Session η) (expression : Text) : Step η (List Binding) :=
  match s.ask (.force expression) with
  | (s, .error fault) => (s, .error fault)
  | (s, .ok (some (.bindingList list))) => (s, .ok list)
  | (s, .ok _) => (s, .error (.evaluation (Text.trim expression)))

/-- One step through the evaluation history. -/
def move [Peer η] (s : Session η) (direction : Direction) : Step η HistoryStep :=
  let command : Command := .move direction (some s.cursor)
  match s.ask command with
  | (s, .error fault) => (s, .error fault)
  | (s, .ok (some (.moved step))) =>
      ({ s with cursor := s.cursor.moved direction }, .ok step)
  | (s, .ok _) => (s, .error (unreadable command))

def back [Peer η] (s : Session η) : Step η HistoryStep :=
  s.move .back

def forward [Peer η] (s : Session η) : Step η HistoryStep :=
  s.move .forward

/-- Loads a module.  Breakpoints do not outlive that. -/
def load [Peer η] (s : Session η) (path : Text) : Step η Unit :=
  let command : Command := .load (Text.trim path)
  match s.ask command with
  | (s, .error fault) => (s, .error fault)
  | (s, .ok none) => (s, .error (unreadable command))
  | (s, .ok (some _)) => ({ s with breakpoints := .empty, cursor := .start }, .ok ())

/-- Any input; gives the answer of whatever form. -/
def raw [Peer η] (s : Session η) (text : Text) : Step η Answer :=
  let command : Command := .raw text
  match s.ask command with
  | (s, .error fault) => (s, .error fault)
  | (s, .ok none) => (s, .error (unreadable command))
  | (s, .ok (some answer)) => (s, .ok answer)

/-- Requests to let the program go on are not supported. -/
def step (s : Session η) (request : StepRequest) : Step η Unit :=
  (s, .error (.unsupported request))

end Session
end GhciBridge
