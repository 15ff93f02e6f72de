import GhciBridge.Exchange.Basic

/-!
# A peer that records its input

A recorder never says anything.  It keeps what is written to it and can be made
to fail, before or after it has taken the text.
-/

namespace GhciBridge

/-- The ways in which a recorder fails. -/
inductive Failure where
  /-- Nothing is taken. -/
  | write
  /-- The text is taken, but that it arrived cannot be confirmed. -/
  | flush
deriving DecidableEq, Repr

structure Recorder where
  written : Text
  failure : Option Failure
deriving DecidableEq, Repr

namespace Recorder

def empty : Recorder := ⟨[], none⟩

def write (recorder : Recorder) (text : Text) : Option Speech × Recorder :=
  let taken := { recorder with written := recorder.written ++ text }
  match recorder.failure with
  | none => (some .silence, taken)
  | some .write => (none, recorder)
  | some .flush => (none, taken)

/-- There is nothing to wait for. -/
instance : Peer Recorder where
  write := write
  reap recorder := recorder

end Recorder
end GhciBridge
