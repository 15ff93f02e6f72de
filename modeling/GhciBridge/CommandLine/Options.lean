import GhciBridge.Text.Numeral

/-!
# Command line options

Options are given as `--name value` or `--name=value`, each at most once, and an
option that is not given may come from the environment.  One argument without a
name is the module to load; everything behind `--` counts as such an argument.
-/

namespace GhciBridge

structure Options where
  config : Option Text
  ghci : Option Text
  ghciArgs : Option Text
  timeout : Option Nat
  json : Bool
  module : Option Text
deriving DecidableEq, Repr

namespace Options

/-- Why the arguments name no options. -/
inductive Stop where
  /-- They are not used as they should be. -/
  | misuse
  /-- They ask for help. -/
  | help
  /-- They ask for the version. -/
  | version
deriving DecidableEq, Repr

/-- Nothing given. -/
def empty : Options := ⟨none, none, none, none, false, none⟩

/-- What takes a value: a named option, or the argument without a name. -/
inductive Key where
  | config
  | ghci
  | ghciArgs
  | timeout
  | module
deriving DecidableEq, Repr

namespace Key

/-- The options that have a name. -/
def named : List (Text × Key) := [
  ("config".toList, .config),
  ("ghci".toList, .ghci),
  ("ghci-args".toList, .ghciArgs),
  ("timeout-ms".toList, .timeout)]

/-- The variable of the environment that gives an option. -/
def environmentName? : Key → Option Text
  | .config => some "GHCI_DEBUGGER_CONFIG".toList
  | .ghci => some "GHCI_DEBUGGER_GHCI".toList
  | .ghciArgs => some "GHCI_DEBUGGER_GHCI_ARGS".toList
  | .timeout => some "GHCI_DEBUGGER_TIMEOUT_MS".toList
  | .module => none

/-- Whether the value of an option may look like an option itself. -/
def allowsHyphens (key : Key) : Bool :=
  key = .ghciArgs

end Key

def isSet (o : Options) : Key → Bool
  | .config => o.config.isSome
  | .ghci => o.ghci.isSome
  | .ghciArgs => o.ghciArgs.isSome
  | .timeout => o.timeout.isSome
  | .module => o.module.isSome

/-- The name of a file is never empty. -/
def path? (value : Text) : Option Text :=
  if value = [] then none else some value

/-- The options with one value put in; a timeout is a number of 64 bits. -/
def put? (o : Options) (value : Text) : Key → Option Options
  | .config => (path? value).map fun path => { o with config := some path }
  | .ghci => (path? value).map fun path => { o with ghci := some path }
  | .ghciArgs => some { o with ghciArgs := some value }
  | .timeout =>
      (Numeral.unsigned? (Nat.pow 2 64) value).map fun ms => { o with timeout := some ms }
  | .module => (path? value).map fun path => { o with module := some path }

/-- The options with one value put in that was not given before. -/
def give (o : Options) (key : Key) (value : Text) : Except Stop Options :=
  if o.isSet key then
    .error .misuse
  else
    match o.put? value key with
    | some o => .ok o
    | none => .error .misuse

/-- A name and the value attached to it by an equals sign. -/
def splitAttached (text : Text) : Text × Option Text :=
  match Text.breakOn? ['='] text with
  | some (name, value) => (name, some value)
  | none => (text, none)

/-- Whether an argument looks like an option.  A single hyphen does not. -/
def looksLikeOption : Text → Bool
  | '-' :: _ :: _ => true
  | _ => false

/-- The options of one letter: help and version. -/
def ofLetter : Char → Stop
  | 'h' => .help
  | 'V' => .version
  | _ => .misuse

/-- An option without a value. -/
def switch (o : Options) (name : Text) : Except Stop Options :=
  if name = "json".toList then
    if o.json then .error .misuse else .ok { o with json := true }
  else if name = "help".toList then
    .error .help
  else if name = "version".toList then
    .error .version
  else
    .error .misuse

/-- The options that arguments add to those in front of them.  Arguments behind
`--` all go without a name. -/
def scan (trailing : Bool) (o : Options) : List Text → Except Stop Options
  | [] => .ok o
  | arg :: args =>
      if trailing || !looksLikeOption arg then
        (o.give .module arg).bind fun o => scan trailing o args
      else if arg = "--".toList then
        scan true o args
      else
        match arg with
        | '-' :: '-' :: long =>
            let (name, attached) := splitAttached long
            match Key.named.lookup name, attached, args with
            | some key, some value, args =>
                (o.give key value).bind fun o => scan false o args
            | some key, none, value :: args =>
                if looksLikeOption value && !key.allowsHyphens then
                  .error .misuse
                else
                  (o.give key value).bind fun o => scan false o args
            | some _, none, [] => .error .misuse
            | none, some _, _ => .error .misuse
            | none, none, args => (o.switch name).bind fun o => scan false o args
        | _ :: letter :: _ => .error (ofLetter letter)
        | _ => .error .misuse

/-- Puts in what the environment gives and the arguments do not. -/
def fill (environment : List (Text × Text)) (o : Options) (key : Key) : Except Stop Options :=
  match key.environmentName?.bind fun name => environment.lookup name with
  | some value => if o.isSet key then .ok o else o.give key value
  | none => .ok o

/-- The options that arguments and the environment give. -/
def read (environment : List (Text × Text)) (args : List Text) : Except Stop Options :=
  (scan false empty args).bind fun o =>
    (Key.named.map Prod.snd).foldlM (fill environment) o

end Options
end GhciBridge
