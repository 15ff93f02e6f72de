import GhciBridge.Proofs.Exchange.Execution

/-!
# The record of an exchange

An exchange is driven by operations: events arrive or stop arriving, the peer
changes, commands are submitted, the queue runs.  The record keeps every command
that was submitted and every retirement.
-/

namespace GhciBridge
namespace Exchange

inductive Operation (π : Type) where
  | feed (events : List Event)
  /-- No more events will come. -/
  | drop
  /-- The peer changes: its input may begin or cease to fail. -/
  | alter (change : π → π)
  | execute (command : Command) (purpose : Purpose)
  | enqueue (command : Command) (purpose : Purpose)
  | runPending
  | sendLine (text : Text)
  | waitForPrompt (patience : Nat)

/-- An exchange with the commands that were to be executed at once, those that
were queued, and the retirements, each in order. -/
structure Record (π : Type) where
  exchange : Exchange π
  executed : List Submission
  enqueued : List Submission
  retired : List Retirement

namespace Record

variable {π : Type}

def start (peer : π) (sentinel : Text) (patience : Nat) : Record π :=
  ⟨.start peer sentinel patience, [], [], []⟩

def submitted (r : Record π) : List Submission :=
  r.executed ++ r.enqueued

def retiredCommands (r : Record π) : List Submission :=
  r.retired.map Retirement.submission

/-- The submission of a command; its number is the count of those before it. -/
def next (r : Record π) (command : Command) (purpose : Purpose) : Submission :=
  ⟨r.submitted.length, command, purpose⟩

variable [Peer π]

/-- The record after an operation, and the fault in which that ended. -/
def apply (r : Record π) : Operation π → Record π × Option Fault
  | .feed events => ({ r with exchange := r.exchange.offer events }, none)
  | .drop => ({ r with exchange := r.exchange.disconnect }, none)
  | .alter change =>
      ({ r with exchange := { r.exchange with peer := change r.exchange.peer } }, none)
  | .execute command purpose =>
      let run := r.exchange.execute (r.next command purpose)
      ({ r with
          exchange := run.exchange
          executed := r.executed ++ [r.next command purpose]
          retired := r.retired ++ run.retired },
        run.fault)
  | .enqueue command purpose =>
      ({ r with
          exchange := r.exchange.enqueue (r.next command purpose)
          enqueued := r.enqueued ++ [r.next command purpose] },
        none)
  | .runPending =>
      let run := r.exchange.runPending
      ({ r with exchange := run.exchange, retired := r.retired ++ run.retired }, run.fault)
  | .sendLine text =>
      let (x, fault) := r.exchange.sendLine text
      ({ r with exchange := x }, fault)
  | .waitForPrompt patience =>
      match r.exchange.waitForPrompt patience with
      | (x, .ok _) => ({ r with exchange := x }, none)
      | (x, .error fault) => ({ r with exchange := x }, some fault)

def run (r : Record π) : List (Operation π) → Record π
  | [] => r
  | operation :: operations => (r.apply operation).1.run operations

end Record
end Exchange
end GhciBridge
