import GhciBridge.Command
import GhciBridge.Fault
import GhciBridge.Text.ShellWords

/-!
# Configurations

The settings of a session: which interpreter to start, how to show values, how
long to wait, and the sentinel that ghci is told to print after every answer.
-/

namespace GhciBridge

structure Config where
  ghciPath : Text
  /-- Arguments for the interpreter, in front of the module. -/
  ghciArgs : List Text
  /-- The function that shows values. -/
  printer : Text
  /-- Milliseconds to wait for an answer. -/
  responseTimeout : Nat
  /-- Milliseconds to wait for the interpreter to start. -/
  startupTimeout : Nat
  sentinel : Text
deriving DecidableEq, Repr

namespace Config

def default : Config where
  ghciPath := "ghci".toList
  ghciArgs := []
  printer := Command.defaultPrinter
  responseTimeout := 5000
  startupTimeout := 30000
  sentinel := "<<ghci-debugger>>".toList

/-- The characters that a sentinel must not hold: it stands in a string literal,
and ghci gives the percent sign a meaning in prompts. -/
def isReserved (c : Char) : Bool :=
  c == '"' || c == '\\' || c == '%' || c == '\n'

/-- What is wrong with a configuration, if anything is. -/
def flaw? (config : Config) : Option Flaw :=
  if Text.allBlank config.sentinel then
    some .blankSentinel
  else if config.sentinel.any isReserved then
    some (.reservedInSentinel config.sentinel)
  else if Text.allBlank config.printer then
    some .blankPrinter
  else if config.responseTimeout = 0 ∨ config.startupTimeout = 0 then
    some .zeroTimeout
  else
    none

def validate (config : Config) : Except Fault Unit :=
  match config.flaw? with
  | some flaw => .error (.config flaw)
  | none => .ok ()

/-- The configuration with the interpreter's arguments replaced by the words of
a line. -/
def withArguments (config : Config) (line : Text) : Except Fault Config :=
  match ShellWords.split? line with
  | some words => .ok { config with ghciArgs := words }
  | none => .error (.config (.unclosedArguments line))

/-- The line that tells ghci to print the sentinel as its prompt, on a line of
its own. -/
def promptCommand (config : Config) : Text :=
  ":set prompt \"".toList ++ config.sentinel ++ "\\n\"".toList

end Config
end GhciBridge
