import GhciBridge.Exchange.Basic
import GhciBridge.Interpreter.Script
import GhciBridge.Wire.Lines

/-!
# Interpreters

A host starts interpreters and lets one talk to the one it started last.  The
scripted interpreter is such a host: it prints the replies of a script, one for
every line it reads, and keeps a log of what it saw.
-/

namespace GhciBridge

/-- A peer that can be started.  `launch` gives what the interpreter prints at
once, or nothing if it cannot be started. -/
class Host (η : Type) extends Peer η where
  launch : η → (path : Text) → (arguments : List Text) → Option (Speech × η)
  /-- Whether the reader of what the interpreter prints can be started too. -/
  canRead : η → Bool
  /-- Closes the pipes to the interpreter, and does not wait for its end. -/
  abandon : η → η

/-- What an interpreter sees. -/
inductive Sight where
  | start (arguments : List Text)
  | line (text : Text)
deriving DecidableEq, Repr

/-- What a running interpreter says next. -/
inductive Stage where
  /-- The reply to the first line is due. -/
  | startup
  /-- The replies to the lines after that. -/
  | answering (left : List Reply)
deriving DecidableEq, Repr

structure Interpreter where
  script : Script
  /-- Nothing if no interpreter runs. -/
  stage : Option Stage
  log : List Sight
deriving DecidableEq, Repr

namespace Interpreter

def ofScript (script : Script) : Interpreter :=
  ⟨script, none, []⟩

/-- The line on which an interpreter ends. -/
def quit : Text := ":quit".toList

/-- The reply that is due, and the stage after it.  When the script has no more
answers, the reply is an empty line of text. -/
def reply (script : Script) : Stage → Reply × Stage
  | .startup => (script.startup, .answering script.answers)
  | .answering [] => (.ofText [], .answering [])
  | .answering (reply :: left) => (reply, .answering left)

/-- The interpreter reads one line. -/
def hearLine (i : Interpreter) (line : Text) : Speech × Interpreter :=
  match i.stage with
  | none => (.silence, i)
  | some stage =>
      let log := i.log ++ [.line line]
      if line = quit then
        (⟨[], true⟩, { i with stage := none, log := log })
      else
        let (reply, next) := reply i.script stage
        (⟨encodeUtf8 (reply.print i.script.sentinel), reply.exits⟩,
          { i with stage := if reply.exits then none else some next, log := log })

/-- The interpreter reads lines one after the other. -/
def hearLines (i : Interpreter) : List Text → Speech × Interpreter
  | [] => (.silence, i)
  | line :: lines =>
      let (speech, i) := i.hearLine line
      let (rest, i) := i.hearLines lines
      (speech.append rest, i)

/-- Text can be written while an interpreter runs.  It reads the complete lines
of it. -/
def write (i : Interpreter) (text : Text) : Option Speech × Interpreter :=
  match i.stage with
  | none => (none, i)
  | some _ =>
      let lines := (Lines.cut '\n' text).1.map List.dropLast
      let (speech, i) := i.hearLines lines
      (some speech, i)

/-- An interpreter starts if its path is the one of the script.  No path or
argument can hold the null character. -/
def launch (i : Interpreter) (path : Text) (arguments : List Text) :
    Option (Speech × Interpreter) :=
  if path ≠ i.script.path ∨ (path :: arguments).any (·.contains '\x00') then
    none
  else
    some (⟨encodeUtf8 i.script.banner, false⟩,
      { i with stage := some .startup, log := i.log ++ [.start arguments] })

/-- The interpreter ends, if it has not done so. -/
def finish (i : Interpreter) : Interpreter :=
  { i with stage := none }

/-- It ends when it is killed, and at the end of its input as well. -/
instance : Host Interpreter where
  write := write
  reap := finish
  launch := launch
  canRead _ := true
  abandon := finish

end Interpreter
end GhciBridge
