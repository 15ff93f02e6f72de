import GhciBridge.Text.Basic
import GhciBridge.Text.Quoted

/-!
# Faults

Everything that can go wrong, each with its cause.  After a fatal fault the
exchange with the interpreter can no longer be trusted, so the session ends.
-/

namespace GhciBridge

/-- Requests to let a stopped program go on, none of which ghci is asked to
carry out. -/
inductive StepRequest where
  | stepOver
  | stepInto
  | stepOut
  | resume
  | runToPosition
deriving DecidableEq, Repr

namespace StepRequest

def render : StepRequest → Text
  | .stepOver => "step over".toList
  | .stepInto => "step into".toList
  | .stepOut => "step out".toList
  | .resume => "resume".toList
  | .runToPosition => "run to position".toList

end StepRequest

/-- What is wrong with a configuration. -/
inductive Flaw where
  | blankSentinel
  | reservedInSentinel (sentinel : Text)
  | blankPrinter
  | zeroTimeout
  | unclosedArguments (line : Text)
  | other (reason : Text)
deriving DecidableEq, Repr

namespace Flaw

def message : Flaw → Text
  | .blankSentinel => "prompt sentinel is empty".toList
  | .reservedInSentinel sentinel =>
      "prompt sentinel contains reserved characters: ".toList ++ sentinel
  | .blankPrinter => "printer function is empty".toList
  | .zeroTimeout => "timeouts must be positive".toList
  | .unclosedArguments line => "cannot split ghci arguments: ".toList ++ line
  | .other reason => reason

end Flaw

inductive Fault where
  /-- The output for a command is not of the form expected. -/
  | unreadable (command : Text)
  | evaluation (expression : Text)
  | untyped (expression : Text)
  /-- A command does not fit on one line of input. -/
  | multiline (command : Text)
  | unsupported (request : StepRequest)
  /-- No prompt came within a number of milliseconds. -/
  | desync (command : Text) (waited : Nat)
  | notRunning
  | alreadyRunning
  | exited
  | config (flaw : Flaw)
  /-- Reading or writing failed. -/
  | io
  /-- A text is not the JSON it should be. -/
  | json
deriving DecidableEq, Repr

namespace Fault

/-- The faults after which a session cannot go on. -/
def isFatal : Fault → Bool
  | .desync _ _ => true
  | .exited => true
  | .io => true
  | _ => false

/-- A number of milliseconds in the largest unit that it fills, with as many
decimals as it takes. -/
def duration (ms : Nat) : Text :=
  if ms = 0 then
    "0ns".toList
  else if ms < 1000 then
    Text.ofNat ms ++ "ms".toList
  else
    let thousandths := ms % 1000
    let digits := (Text.ofNat (1000 + thousandths)).drop 1
    let kept := (digits.reverse.dropWhile (· == '0')).reverse
    Text.ofNat (ms / 1000) ++ (if kept = [] then [] else '.' :: kept) ++ ['s']

def message : Fault → Text
  | .unreadable command =>
      "cannot parse ghci output for \x60".toList ++ command ++ ['\x60']
  | .evaluation expression => "cannot evaluate expression: ".toList ++ expression
  | .untyped expression => "cannot show type: ".toList ++ expression
  | .multiline command => "command spans several lines: ".toList ++ Text.quoted command
  | .unsupported request =>
      request.render ++ " is not supported by the ghci debugger".toList
  | .desync command waited =>
      "no response to \x60".toList ++ command ++ "\x60 within ".toList ++ duration waited ++
        ", restart the debug session".toList
  | .notRunning => "debug session is not running".toList
  | .alreadyRunning => "debug session is already running".toList
  | .exited => "ghci process exited".toList
  | .config flaw => "invalid configuration: ".toList ++ flaw.message
  | .io => "reading or writing failed".toList
  | .json => "malformed JSON".toList

end Fault
end GhciBridge
