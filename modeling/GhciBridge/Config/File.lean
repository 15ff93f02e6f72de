import GhciBridge.Config.Basic
import GhciBridge.Json.Number
import GhciBridge.Json.Tree

/-!
# Configuration files

A configuration file is a JSON object whose fields replace the default settings.
A setting may be given once, and only by a value of its own type; fields that
are no settings are passed over, whatever they hold.  An array of settings in
their fixed order does as well, and settings missing at its end keep their
defaults.
-/

namespace GhciBridge
namespace Config

open Json (Tree)

/-- The settings in the order in which an array gives them. -/
inductive Setting where
  | ghciPath
  | ghciArgs
  | printer
  | responseTimeout
  | startupTimeout
  | sentinel
deriving DecidableEq, Repr

namespace Setting

def all : List Setting :=
  [.ghciPath, .ghciArgs, .printer, .responseTimeout, .startupTimeout, .sentinel]

def key : Setting → Text
  | .ghciPath => "ghci_path".toList
  | .ghciArgs => "ghci_args".toList
  | .printer => "printer".toList
  | .responseTimeout => "response_timeout_ms".toList
  | .startupTimeout => "startup_timeout_ms".toList
  | .sentinel => "prompt_sentinel".toList

/-- The setting of a key. -/
def ofKey? (key : Text) : Option Setting :=
  all.find? fun setting => setting.key = key

end Setting

def text? : Tree → Option Text
  | .string s => s
  | _ => none

def texts? : Tree → Option (List Text)
  | .array items => items.mapM text?
  | _ => none

def natural? : Tree → Option Nat
  | .number n => n.natural?
  | _ => none

/-- The configuration with one setting replaced. -/
def set? (config : Config) (setting : Setting) (value : Tree) : Option Config :=
  match setting with
  | .ghciPath => (text? value).map fun v => { config with ghciPath := v }
  | .ghciArgs => (texts? value).map fun v => { config with ghciArgs := v }
  | .printer => (text? value).map fun v => { config with printer := v }
  | .responseTimeout => (natural? value).map fun v => { config with responseTimeout := v }
  | .startupTimeout => (natural? value).map fun v => { config with startupTimeout := v }
  | .sentinel => (text? value).map fun v => { config with sentinel := v }

/-- The configuration with the fields of an object put in, given the settings
that fields in front of them have replaced. -/
def ofFields? (config : Config) (replaced : List Setting) :
    List (Option Text × Tree) → Option Config
  | [] => some config
  | (key, value) :: fields => do
      let key ← key
      match Setting.ofKey? key with
      | none => ofFields? config replaced fields
      | some setting =>
          if setting ∈ replaced then
            none
          else
            let config ← config.set? setting value
            ofFields? config (setting :: replaced) fields

/-- The configuration with the items of an array put in, one for each of the
given settings. -/
def ofItems? (config : Config) : List Setting → List Tree → Option Config
  | _, [] => some config
  | [], _ :: _ => none
  | setting :: settings, item :: items => do
      let config ← config.set? setting item
      ofItems? config settings items

def ofTree? : Tree → Option Config
  | .object fields => ofFields? .default [] fields
  | .array items => ofItems? .default Setting.all items
  | _ => none

/-- The valid configuration that the text of a file holds. -/
def read (text : Text) : Except Fault Config :=
  match (Tree.read? text).bind ofTree? with
  | none => .error .json
  | some config => config.validate.map fun _ => config

end Config
end GhciBridge
