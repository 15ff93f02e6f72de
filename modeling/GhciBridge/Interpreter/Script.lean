import GhciBridge.Json.Reader

/-!
# Scripts

A script is what a ghci said or would say: a banner, a reply to the line that
sets the prompt, and a reply to each line after that.
-/

namespace GhciBridge

/-- One reply: text on the error stream, text with a prompt behind it, text
without one, and whether the interpreter ends after it. -/
structure Reply where
  errors : Option Text
  prompted : Option Text
  unprompted : Option Text
  exits : Bool
deriving DecidableEq, Repr

namespace Reply

/-- A text with a prompt behind it. -/
def ofText (text : Text) : Reply :=
  ⟨none, some text, none, false⟩

/-- What a reply prints, given the prompt. -/
def print (sentinel : Text) (reply : Reply) : Text :=
  reply.errors.getD [] ++
    (reply.prompted.map fun text => text ++ sentinel ++ ['\n']).getD [] ++
    reply.unprompted.getD []

def text? (key : Text) (json : Json) : Option Text :=
  match json.field? key with
  | some (.string s) => some s
  | _ => none

/-- A reply as it stands in a script: a string, or an object that names the
parts. -/
def ofJson : Json → Reply
  | .string text => ofText text
  | json =>
      { errors := text? "err".toList json
        prompted := text? "out".toList json
        unprompted := text? "raw".toList json
        exits :=
          match json.field? "exit".toList with
          | some (.bool b) => b
          | _ => false }

end Reply

structure Script where
  /-- The path by which the interpreter is started. -/
  path : Text
  banner : Text
  startup : Reply
  answers : List Reply
  /-- The prompt that the interpreter prints. -/
  sentinel : Text
deriving DecidableEq, Repr

namespace Script

def defaultBanner : Text :=
  "GHCi, version 9.4.8: https://www.haskell.org/ghc/  :? for help\nghci> ".toList

/-- The script that a JSON object holds. -/
def ofJson (path sentinel : Text) (json : Json) : Script where
  path := path
  banner := (Reply.text? "banner".toList json).getD defaultBanner
  startup := ((json.field? "startup".toList).map Reply.ofJson).getD (.ofText [])
  answers :=
    match json.field? "answers".toList with
    | some (.array items) => items.map Reply.ofJson
    | _ => []
  sentinel := sentinel

end Script
end GhciBridge
