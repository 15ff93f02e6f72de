import GhciBridge.Text.Blank
import GhciBridge.Text.Word

/-!
# Events on the output of ghci

Ghci is told to end every answer with a sentinel.  A line of its output is
therefore either text or the end of an answer, possibly with text in front of
it that did not end in a line break.
-/

namespace GhciBridge

inductive Event where
  | line (text : Text)
  /-- The end of an answer: ghci waits for input. -/
  | prompt
  /-- The end of the output. -/
  | closed
deriving DecidableEq, Repr

namespace Event

/-- A line without the line break at its end. -/
def dropLineEnd (line : Text) : Text :=
  (line.reverse.dropWhile fun c => c == '\r' || c == '\n').reverse

/-- The text in front of a stop context `[span] ` or `... [span] ` at the end of
a text, taken backwards. -/
def beforeContext? (backwards : Text) : Option Text :=
  match Text.afterPrefix? [' ', ']'] backwards with
  | none => none
  | some rest =>
      match rest.dropWhile fun c => c != '[' && c != ']' with
      | '[' :: rest => some ((Text.afterPrefix? [' ', '.', '.', '.'] rest).getD rest)
      | _ => none

/-- A text without the stop context at its end. -/
def dropContext (text : Text) : Text :=
  match beforeContext? text.reverse with
  | some backwards => backwards.reverse
  | none => text

/-- Whether a text is a prompt of the form `Prelude Main> `. -/
def isDefaultPrompt (text : Text) : Bool :=
  match Text.afterPrefix? [' ', '>'] text.reverse with
  | some modules => modules.all fun c => Text.isWord c || c == '.' || c == '*' || c == ' '
  | none => false

/-- The text in front of a sentinel without the decorations of a prompt. -/
def undecorated (text : Text) : Text :=
  let text := dropContext text
  if isDefaultPrompt text then [] else text

/-- The events of one line of output. -/
def classify (sentinel : Text) (line : Text) : List Event :=
  let line := dropLineEnd line
  match Text.breakOn? sentinel line with
  | some (before, _) =>
      let text := undecorated before
      if Text.allBlank text then [.prompt] else [.line text, .prompt]
  | none => [.line line]

end Event
end GhciBridge
