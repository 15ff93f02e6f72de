import GhciBridge.Fault
import GhciBridge.Text.Blank
import GhciBridge.Text.Numeral
import GhciBridge.Text.ShellWords

/-!
# Console requests

A line of the console is a request: a keyword and its arguments, or a command
for ghci that begins with a colon.
-/

namespace GhciBridge

inductive Request where
  | setBreakpoint (module : Text) (line : Nat)
  | deleteBreakpoint (module : Text) (line : Nat)
  | breakpoints
  | trace (expression : Text)
  | typeOf (expression : Text)
  | print (expression : Text)
  | force (expression : Text)
  | history
  | back
  | forward
  | bindings
  | load (path : Text)
  | step (request : StepRequest)
  | raw (text : Text)
  | help
  | quit
  | empty
deriving DecidableEq, Repr

/-- Why a line is no request. -/
inductive Misuse where
  /-- A keyword lacks its expression. -/
  | expression (keyword : Text)
  /-- A keyword lacks its module and line, or they are malformed. -/
  | moduleAndLine (keyword : Text)
  | file
  | unknown (keyword : Text)
deriving DecidableEq, Repr

namespace Misuse

def message : Misuse → Text
  | .expression keyword => "usage: ".toList ++ keyword ++ " <expression>".toList
  | .moduleAndLine keyword => "usage: ".toList ++ keyword ++ " <Module> <line>".toList
  | .file => "usage: load <file>".toList
  | .unknown keyword => "unknown command: ".toList ++ keyword

end Misuse

namespace Request

/-- What the arguments behind a keyword have to be. -/
inductive Form where
  /-- Nothing; further text is ignored. -/
  | plain (request : Request)
  | expression (make : Text → Request)
  | moduleAndLine (make : Text → Nat → Request)
  | file (make : Text → Request)

/-- The keywords, each with the form of its arguments. -/
def keywords : List (Text × Form) := [
  ([], .plain .empty),
  ("b".toList, .moduleAndLine .setBreakpoint),
  ("break".toList, .moduleAndLine .setBreakpoint),
  ("delete".toList, .moduleAndLine .deleteBreakpoint),
  ("breakpoints".toList, .plain .breakpoints),
  ("trace".toList, .expression .trace),
  ("t".toList, .expression .typeOf),
  ("type".toList, .expression .typeOf),
  ("p".toList, .expression .print),
  ("print".toList, .expression .print),
  ("force".toList, .expression .force),
  ("history".toList, .plain .history),
  ("back".toList, .plain .back),
  ("forward".toList, .plain .forward),
  ("bindings".toList, .plain .bindings),
  ("load".toList, .file .load),
  ("c".toList, .plain (.step .resume)),
  ("continue".toList, .plain (.step .resume)),
  ("n".toList, .plain (.step .stepOver)),
  ("next".toList, .plain (.step .stepOver)),
  ("stepOver".toList, .plain (.step .stepOver)),
  ("s".toList, .plain (.step .stepInto)),
  ("step".toList, .plain (.step .stepInto)),
  ("stepInto".toList, .plain (.step .stepInto)),
  ("o".toList, .plain (.step .stepOut)),
  ("out".toList, .plain (.step .stepOut)),
  ("stepOut".toList, .plain (.step .stepOut)),
  ("h".toList, .plain .help),
  ("help".toList, .plain .help),
  ("q".toList, .plain .quit),
  ("quit".toList, .plain .quit)]

/-- The form of the arguments of a keyword. -/
def form? (keyword : Text) : Option Form :=
  (keywords.find? fun entry => entry.1 = keyword).map Prod.snd

/-- A module and a line number, as shell words. -/
def moduleAndLine? (arguments : Text) : Option (Text × Nat) :=
  match ShellWords.split? arguments with
  | some [module, line] => (Numeral.unsigned? (Nat.pow 2 32) line).map fun n => (module, n)
  | _ => none

/-- The request of a keyword with arguments. -/
def ofForm (keyword arguments : Text) : Form → Except Misuse Request
  | .plain request => .ok request
  | .expression make =>
      if arguments = [] then .error (.expression keyword) else .ok (make arguments)
  | .moduleAndLine make =>
      match moduleAndLine? arguments with
      | some (module, line) => .ok (make module line)
      | none => .error (.moduleAndLine keyword)
  | .file make => if arguments = [] then .error .file else .ok (make arguments)

/-- The request that a line makes. -/
def read (line : Text) : Except Misuse Request :=
  let text := Text.trim line
  if Text.beginsWith [':'] text then
    .ok (.raw text)
  else
    let (keyword, rest) := Text.breakBlank text
    match form? keyword with
    | some form => ofForm keyword (Text.trim rest) form
    | none => .error (.unknown keyword)

end Request
end GhciBridge
