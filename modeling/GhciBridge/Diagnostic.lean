import GhciBridge.Text.Blank
import GhciBridge.Text.Digit

/-!
# Diagnostics

A diagnostic of ghci begins in the first column with the place it is about, as
in `A.hs:3:5: error:` or `<interactive>:1:2-5: warning:`.  Values that merely
mention an error are no diagnostics.

A warning reaches from its first line over the blank and indented lines behind
it.  Warnings come in front of the answer and are not part of it.
-/

namespace GhciBridge
namespace Diagnostic

inductive Severity where
  | error
  | warning
deriving DecidableEq, Repr

/-!
## The place of a diagnostic

The place ends at the first blank character of the line.  Like a span it is
taken apart from its end, last character first.
-/

/-- What is in front of the number at the end of a text. -/
def popNumber? (backwards : Text) : Option Text :=
  match backwards with
  | c :: rest =>
      if Text.isDecimalDigit c then some (rest.dropWhile Text.isDecimalDigit) else none
  | [] => none

def popMark? (mark : Text) (backwards : Text) : Option Text :=
  Text.afterPrefix? mark.reverse backwards

/-- The text in front of `:line:column`. -/
def popPoint? (backwards : Text) : Option Text := do
  let rest ← popNumber? backwards
  let rest ← popMark? [':'] rest
  let rest ← popNumber? rest
  popMark? [':'] rest

/-- The text in front of `:line:column-column`. -/
def popColumns? (backwards : Text) : Option Text := do
  let rest ← popNumber? backwards
  let rest ← popMark? ['-'] rest
  popPoint? rest

/-- The text in front of `:(line,column)-(line,column)`. -/
def popLines? (backwards : Text) : Option Text := do
  let rest ← popMark? [')'] backwards
  let rest ← popNumber? rest
  let rest ← popMark? [','] rest
  let rest ← popNumber? rest
  let rest ← popMark? ")-(".toList rest
  let rest ← popNumber? rest
  let rest ← popMark? [','] rest
  let rest ← popNumber? rest
  popMark? ":(".toList rest

/-- Whether a text, taken backwards, names a file of Haskell source or the
interactive input. -/
def isSource (backwards : Text) : Bool :=
  backwards == "<interactive>".toList.reverse ||
    [".hs", ".lhs"].any fun ending =>
      match popMark? ending.toList backwards with
      | some stem => stem ≠ []
      | none => false

/-- Whether a text is a place in a source with a colon behind it. -/
def isPlace (text : Text) : Bool :=
  match popMark? [':'] text.reverse with
  | some backwards =>
      [popLines?, popColumns?, popPoint?].any fun pop =>
        match pop backwards with
        | some source => isSource source
        | none => false
  | none => false

/-- The severity of the diagnostic that a line begins. -/
def severity? (line : Text) : Option Severity :=
  let (place, rest) := Text.breakBlank line
  if isPlace place then
    if Text.beginsWith " error:".toList rest then some .error
    else if Text.beginsWith " warning:".toList rest then some .warning
    else none
  else
    none

/-- Whether a line reports an error: a diagnostic, an exception, or an error
without a place. -/
def isError (line : Text) : Bool :=
  Text.beginsWith "*** Exception:".toList line ||
    Text.beginsWith "<no location info>: error:".toList line ||
    severity? line = some .error

def isWarning (line : Text) : Bool :=
  severity? line = some .warning

/-- Whether some line reports an error. -/
def anyError (lines : List Text) : Bool :=
  lines.any isError

/-!
## Warning blocks
-/

/-- Whether a line belongs to a warning, given whether the line in front of it
does. -/
def inWarning (before : Bool) (line : Text) : Bool :=
  (before && (Text.allBlank line || Text.startsBlank line)) || isWarning line

/-- The lines of the warnings and all other lines, both in order, given whether
the line in front of the first one belongs to a warning. -/
def separateFrom (before : Bool) : List Text → List Text × List Text
  | [] => ([], [])
  | line :: lines =>
      let now := inWarning before line
      let (warnings, others) := separateFrom now lines
      if now then (line :: warnings, others) else (warnings, line :: others)

/-- The lines of the warnings and all other lines, both in order. -/
def separate (lines : List Text) : List Text × List Text :=
  separateFrom false lines

/-- The lines that do not belong to a warning. -/
def withoutWarnings (lines : List Text) : List Text :=
  (separate lines).2

end Diagnostic
end GhciBridge
