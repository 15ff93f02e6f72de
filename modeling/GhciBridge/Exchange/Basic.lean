import GhciBridge.Exchange.Submission
import GhciBridge.Wire.Feed

/-!
# The exchange with an interpreter

Ghci does not number its answers, so one command is under way at a time: its
line is written, and everything up to the next prompt is its answer.  Commands
can be queued; they run in the order in which they were queued.

The interpreter itself is a parameter.  All that an exchange asks of it is to
take text, and to say what it prints in return.
-/

namespace GhciBridge

/-- What an interpreter prints, and whether its output ends with that. -/
structure Speech where
  bytes : List UInt8
  ends : Bool
deriving DecidableEq

namespace Speech

def silence : Speech := ⟨[], false⟩

/-- One speech after another. -/
def append (first second : Speech) : Speech :=
  ⟨first.bytes ++ second.bytes, first.ends || second.ends⟩

end Speech

/-- The far end of an exchange.  Writing to it may fail. -/
class Peer (π : Type) where
  write : π → Text → Option Speech × π
  /-- Waits for the end of the peer, and kills it when that takes too long. -/
  reap : π → π

structure Exchange (π : Type) where
  peer : π
  feed : Feed
  /-- What was read from the peer and not yet looked at. -/
  channel : List Event
  /-- Whether more events may come. -/
  connected : Bool
  /-- Whether the end of the output was seen. -/
  closed : Bool
  queue : List Submission
  /-- How long to wait for a prompt, in milliseconds. -/
  patience : Nat

namespace Exchange

/-- An exchange in which nothing was said yet. -/
def start (peer : π) (sentinel : Text) (patience : Nat) : Exchange π :=
  ⟨peer, .start sentinel, [], true, false, [], patience⟩

/-- More events. -/
def offer (x : Exchange π) (events : List Event) : Exchange π :=
  if x.connected then { x with channel := x.channel ++ events } else x

/-- No more events will come. -/
def disconnect (x : Exchange π) : Exchange π :=
  { x with connected := false }

/-- The peer speaks. -/
def hear (x : Exchange π) (speech : Speech) : Exchange π :=
  let (events, feed) := x.feed.push speech.bytes
  let (last, feed) := if speech.ends then feed.finish else ([], feed)
  { x with
    feed := feed
    channel := x.channel ++ events ++ last
    connected := x.connected && !feed.ended }

/-!
## One command at a time
-/

/-- What ends a list of lines. -/
inductive Ending where
  | prompt
  | closed
  | silence
deriving DecidableEq, Repr

/-- The lines up to the next prompt or to the end of the output, what ended
them, and the events behind that. -/
def collect : List Event → List Text × Ending × List Event
  | [] => ([], .silence, [])
  | .line text :: events =>
      let (lines, ending, rest) := collect events
      (text :: lines, ending, rest)
  | .prompt :: events => ([], .prompt, events)
  | .closed :: events => ([], .closed, events)

/-- Waits for a prompt; `asked` tells in a fault what was waited for. -/
def receive (x : Exchange π) (asked : Text) (patience : Nat) :
    Exchange π × Except Fault (List Text) :=
  match collect x.channel with
  | (lines, .prompt, rest) => ({ x with channel := rest }, .ok lines)
  | (_, .closed, rest) => ({ x with channel := rest, closed := true }, .error .exited)
  | (_, .silence, rest) =>
      if x.connected then
        ({ x with channel := rest }, .error (.desync asked patience))
      else
        ({ x with channel := rest, closed := true }, .error .exited)

/-- Writes one line of input. -/
def writeLine [Peer π] (x : Exchange π) (line : Text) : Exchange π × Option Fault :=
  match Peer.write x.peer (line ++ ['\n']) with
  | (some speech, peer) => ({ x with peer := peer }.hear speech, none)
  | (none, peer) => ({ x with peer := peer }, some .io)

/-- The end of a command: its answer if one was read, and a fault if the
exchange failed. -/
structure Outcome (π : Type) where
  exchange : Exchange π
  answer : Option Answer
  fault : Option Fault

/-- Runs one command.  A command of several lines is refused before anything is
written: its parts would be answered by several prompts. -/
def perform [Peer π] (x : Exchange π) (command : Command) : Outcome π :=
  if x.closed then
    ⟨x, none, some .exited⟩
  else if !command.isSingleLine then
    ⟨x, none, some (.multiline command.line)⟩
  else
    match x.writeLine command.line with
    | (x, some fault) => ⟨x, none, some fault⟩
    | (x, none) =>
        match x.receive command.line x.patience with
        | (x, .error fault) => ⟨x, none, some fault⟩
        | (x, .ok lines) => ⟨x, command.complete lines, none⟩

/-!
## Submitted commands
-/

/-- An exchange after some of its commands were retired, in the order of their
retirement. -/
structure Run (π : Type) where
  exchange : Exchange π
  retired : List Retirement
  fault : Option Fault

/-- Runs a submitted command at once. -/
def execute [Peer π] (x : Exchange π) (submission : Submission) : Run π :=
  let outcome := x.perform submission.command
  ⟨outcome.exchange, [⟨submission, outcome.answer⟩], outcome.fault⟩

/-- Puts a command at the end of the queue. -/
def enqueue (x : Exchange π) (submission : Submission) : Exchange π :=
  { x with queue := x.queue ++ [submission] }

/-- Retires the whole queue without answers. -/
def failPending (x : Exchange π) : Run π :=
  ⟨{ x with queue := [] }, x.queue.map .unanswered, none⟩

/-- Runs commands one after the other.  A fault stops the run; if it is fatal,
the commands behind it are retired without answers, else they stay queued. -/
def runAll [Peer π] : List Submission → Exchange π → Run π
  | [], x => ⟨{ x with queue := [] }, [], none⟩
  | submission :: waiting, x =>
      let outcome := x.perform submission.command
      let retired : Retirement := ⟨submission, outcome.answer⟩
      match outcome.fault with
      | none =>
          let run := runAll waiting outcome.exchange
          { run with retired := retired :: run.retired }
      | some fault =>
          if fault.isFatal then
            ⟨{ outcome.exchange with queue := [] },
              retired :: waiting.map .unanswered, some fault⟩
          else
            ⟨{ outcome.exchange with queue := waiting }, [retired], some fault⟩

/-- Runs the queue. -/
def runPending [Peer π] (x : Exchange π) : Run π :=
  runAll x.queue x

/-!
## Input outside of commands
-/

/-- Writes a line without waiting for an answer. -/
def sendLine [Peer π] (x : Exchange π) (text : Text) : Exchange π × Option Fault :=
  let line := Text.trim text
  if Command.fitsOneLine line then x.writeLine line else (x, some (.multiline line))

/-- What a wait outside of any command is called in faults. -/
def startup : Text := "<startup>".toList

/-- Waits for a prompt that no command asked for. -/
def waitForPrompt (x : Exchange π) (patience : Nat) :
    Exchange π × Except Fault (List Text) :=
  x.receive startup patience

end Exchange
end GhciBridge
