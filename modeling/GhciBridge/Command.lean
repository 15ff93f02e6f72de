import GhciBridge.Answer.Reading

/-!
# Commands

A command is one line of input for ghci together with the way its answer is
read.  Moves through the history carry the cursor of the session, so that their
answer can tell whether the newest or the oldest step was reached.
-/

namespace GhciBridge

inductive Direction where
  | back
  | forward
deriving DecidableEq, Repr

/-- A place in the evaluation history: how many steps back from where the program
stopped, and how many there are if that is known.  Steps are counted in a machine
word, so the count starts again behind its largest value. -/
structure Cursor where
  depth : UInt64
  length : Option Nat
deriving DecidableEq, Repr

namespace Cursor

/-- Where the program stopped, with a history of unknown length. -/
def start : Cursor := ⟨0, none⟩

/-- The cursor after one step. -/
def moved (cursor : Cursor) : Direction → Cursor
  | .back => { cursor with depth := cursor.depth + 1 }
  | .forward => { cursor with depth := if cursor.depth = 0 then 0 else cursor.depth - 1 }

def atTop (cursor : Cursor) : Bool :=
  cursor.depth == 0

def atBottom (cursor : Cursor) : Bool :=
  match cursor.length with
  | some length => length ≤ cursor.depth.toNat
  | none => false

theorem toNat_depth_moved_back
    (cursor : Cursor) :
    (cursor.moved .back).depth.toNat = (cursor.depth.toNat + 1) % UInt64.size := by
  simp [moved, UInt64.toNat_add, UInt64.size]

/-- A step forward from where the program stopped stays there. -/
theorem toNat_depth_moved_forward
    (cursor : Cursor) :
    (cursor.moved .forward).depth.toNat = cursor.depth.toNat - 1 := by
  have hlt := cursor.depth.toNat_lt
  by_cases h : cursor.depth = 0
  · simp [moved, h]
  · have hpos : cursor.depth.toNat ≠ 0 :=
      fun e => h (UInt64.toNat_inj.mp e)
    simp only [moved, h, if_false, UInt64.toNat_sub]
    have hone : (1 : UInt64).toNat = 1 := rfl
    rw [hone]
    omega

end Cursor

inductive Command where
  | setBreakpoint (module : Text) (line : Nat)
  | deleteBreakpoint (number : Int32)
  | trace (expression : Text)
  | typeOf (expression : Text)
  /-- An expression given to a printer function. -/
  | evaluate (printer : Text) (expression : Text)
  | history
  | bindings
  | force (expression : Text)
  | move (direction : Direction) (cursor : Option Cursor)
  | load (path : Text)
  /-- Any other input. -/
  | raw (text : Text)
deriving DecidableEq, Repr

namespace Command

/-- The printer used unless another one is configured. -/
def defaultPrinter : Text := "Prelude.show".toList

/-- The text of a command before it is trimmed. -/
def payload : Command → Text
  | .setBreakpoint module line => ":break ".toList ++ module ++ ' ' :: Text.ofNat line
  | .deleteBreakpoint number => ":delete ".toList ++ Span.number number
  | .trace expression => ":trace ".toList ++ Text.trim expression
  | .typeOf expression => ":type ".toList ++ Text.trim expression
  | .evaluate printer expression => printer ++ " (".toList ++ Text.trim expression ++ [')']
  | .history => ":history".toList
  | .bindings => ":show bindings".toList
  | .force expression => ":force ".toList ++ Text.trim expression
  | .move .back _ => ":back".toList
  | .move .forward _ => ":forward".toList
  | .load path => ":load ".toList ++ path
  | .raw text => text

/-- The line that a command is: its payload without blanks around it. -/
def line (command : Command) : Text :=
  Text.trim command.payload

/-- Whether a text is a single line of input. -/
def fitsOneLine (text : Text) : Bool :=
  !text.any fun c => c == '\n' || c == '\r'

def isSingleLine (command : Command) : Bool :=
  fitsOneLine command.line

/-- What is written for a command: its line and a line break. -/
def input (command : Command) : Text :=
  command.line ++ ['\n']

/-- A step with the marks that the cursor in front of it implies. -/
def markStep (direction : Direction) (cursor : Option Cursor) (step : HistoryStep) : HistoryStep :=
  match cursor with
  | none => step
  | some cursor =>
      let moved := cursor.moved direction
      { step with atTop := step.atTop || moved.atTop, atBottom := moved.atBottom }

/-- Whether a line tells that modules could not be loaded. -/
def reportsFailure (line : Text) : Bool :=
  Text.beginsWith "Failed,".toList (Text.trimStart line)

/-- The answer to a command, and the lines behind it. -/
def read? (command : Command) : Answer.Reader := fun lines =>
  match command with
  | .setBreakpoint _ _ => Answer.breakpoint? lines
  | .deleteBreakpoint _ => Answer.plain? lines
  | .trace _ => Answer.stopped? lines
  | .typeOf _ => Answer.typed? lines
  | .evaluate _ _ => Answer.shown? lines
  | .history => Answer.history? lines
  | .bindings => Answer.bindings? lines
  | .force _ => Answer.bindings? lines
  | .move direction cursor =>
      (Answer.moved? lines).map fun (answer, rest) =>
        match answer with
        | .moved step => (.moved (markStep direction cursor step), rest)
        | other => (other, rest)
  | .load _ => if lines.any reportsFailure then none else Answer.plain? lines
  | .raw _ => (Answer.any? lines).or (some (.output (Text.joinLines lines), []))

/-- The answer to a command in all the lines up to the next prompt. -/
def complete (command : Command) (lines : List Text) : Option Answer :=
  (command.read? (Diagnostic.withoutWarnings lines)).map Prod.fst

end Command
end GhciBridge
