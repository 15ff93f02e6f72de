import GhciBridge.CommandLine.Program

/-!
# The executable

The interpreter that the executable talks to is a script in a JSON file, which
stands in the place of the ghci executable.
-/

namespace GhciBridge

/-- The names of the variables that can give options. -/
def optionVariables : List Text :=
  Options.Key.named.filterMap fun entry => entry.2.environmentName?

def readEnvironment : IO (List (Text × Text)) :=
  optionVariables.filterMapM fun name => do
    let value ← IO.getEnv (String.ofList name)
    return value.map fun value => (name, value.toList)

/-- The text of a file, if it can be read. -/
def readText? (path : Text) : IO (Option Text) := do
  try
    let text ← IO.FS.readFile (String.ofList path)
    return some text.toList
  catch _ =>
    return none

partial def readAll (stream : IO.FS.Stream) (before : List UInt8) : IO (List UInt8) := do
  let chunk ← stream.read 65536
  if chunk.isEmpty then
    return before
  else
    readAll stream (before ++ chunk.data.toList)

/-- The interpreter of a configuration.  Without a script it has a path under which
nothing can be started. -/
def loadInterpreter (config : Config) : IO Interpreter := do
  let text ← readText? config.ghciPath
  match text.bind Json.read? with
  | some script => return .ofScript (.ofJson config.ghciPath config.sentinel script)
  | none => return .ofScript ⟨['\x00'], [], .ofText [], [], config.sentinel⟩

end GhciBridge

open GhciBridge in
def main (args : List String) : IO UInt32 := do
  let args := args.map String.toList
  let environment ← readEnvironment
  let options := (Options.read environment args).toOption
  let named ←
    match options.bind Options.config with
    | some path => do
        let text ← readText? path
        pure (text.map fun text => (path, text))
    | none => pure none
  let files (path : Text) := named.toList.lookup path
  let config := (options.bind fun o => (Program.configure files o).toOption).getD .default
  let interpreter ← loadInterpreter config
  let input ←
    match options with
    | some _ => do readAll (← IO.getStdin) []
    | none => pure []
  let report := Program.run environment files args input interpreter
  IO.print (String.ofList report.out)
  IO.eprint (String.ofList report.err)
  return report.code.toUInt32
