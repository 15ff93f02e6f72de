import GhciBridge.CommandLine.Options
import GhciBridge.Config.File
import GhciBridge.Console.Basic

/-!
# The program

The program reads its options, makes a configuration of them, starts a session
and holds a console over the standard input.  Its exit code tells whether that
went well (0), failed (1), or was not asked for properly (2).
-/

namespace GhciBridge
namespace Program

/-- What a run of the program leaves behind. -/
structure Report (η : Type) where
  code : Nat
  out : Text
  err : Text
  host : η

def versionText : Text :=
  "ghci-debugger 0.1.0\n".toList

def helpText : Text :=
  ("Interactive debugger front end for ghci\n\n" ++
    "Usage: ghci-debugger [OPTIONS] [MODULE]\n\n" ++
    "Arguments:\n" ++
    "  [MODULE]  Haskell module to load\n\n" ++
    "Options:\n" ++
    "      --config <CONFIG>          JSON configuration file\n" ++
    "      --ghci <GHCI>              ghci executable\n" ++
    "      --ghci-args <GHCI_ARGS>    Extra ghci arguments, split like a shell command line\n" ++
    "      --timeout-ms <TIMEOUT_MS>  Time to wait for each ghci answer\n" ++
    "      --json                     Print results as JSON\n" ++
    "  -h, --help                     Print help\n" ++
    "  -V, --version                  Print version\n").toList

def misuseText : Text :=
  "error: the arguments are not understood, try '--help'\n".toList

/-- The configuration that the options start from. -/
def baseConfig (files : Text → Option Text) (o : Options) : Except Fault Config :=
  match o.config with
  | none => .ok .default
  | some path =>
      match files path with
      | none => .error .io
      | some text => Config.read text

/-- The valid configuration that the options describe. -/
def configure (files : Text → Option Text) (o : Options) : Except Fault Config := do
  let config ← baseConfig files o
  let config := { config with ghciPath := o.ghci.getD config.ghciPath }
  let config ←
    match o.ghciArgs with
    | none => pure config
    | some line => config.withArguments line
  let config := { config with responseTimeout := o.timeout.getD config.responseTimeout }
  config.validate
  pure config

/-- A message that ends the program. -/
def failure (host : η) (out message : Text) : Report η :=
  ⟨1, out, Console.lineText (Console.complaint message), host⟩

/-- The session of a configuration, from its start to its end. -/
def debug [Host η] (config : Config) (o : Options) (input : List UInt8) (host : η) : Report η :=
  match (Session.new config o.module host).start with
  | (s, .error fault) =>
      failure s.link.host [] ("Failed to start ghci: ".toList ++ fault.message)
  | (s, .ok ()) =>
      let conversation := Console.run o.json input s
      let host := conversation.session.stop.link.host
      match conversation.fault with
      | none => ⟨0, conversation.out, [], host⟩
      | some fault => failure host conversation.out fault.message

/-- The whole program. -/
def run [Host η] (environment : List (Text × Text)) (files : Text → Option Text)
    (args : List Text) (input : List UInt8) (host : η) : Report η :=
  match Options.read environment args with
  | .error .misuse => ⟨2, [], misuseText, host⟩
  | .error .help => ⟨0, helpText, [], host⟩
  | .error .version => ⟨0, versionText, [], host⟩
  | .ok o =>
      match configure files o with
      | .error fault => failure host [] fault.message
      | .ok config => debug config o input host

end Program
end GhciBridge
