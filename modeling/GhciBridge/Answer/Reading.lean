import GhciBridge.Answer.Basic
import GhciBridge.Diagnostic
import GhciBridge.Json.Reader
import GhciBridge.Literal

/-!
# Reading answers

A reader takes an answer off the front of the lines ghci printed.  It returns
the answer with the lines behind it, or nothing, and then the lines are as they
were.  Output in which some line reports an error is never read as a value.
-/

namespace GhciBridge
namespace Answer

abbrev Reader := List Text → Option (Answer × List Text)

/-- The rest of a non-empty text without line breaks. -/
def onOneLine? (text : Text) : Option Text :=
  if text ≠ [] ∧ '\n' ∉ text then some text else none

/-!
## Breakpoints and stops
-/

/-- The number and the span of the report `Breakpoint n activated at span`. -/
def breakpointReport? (line : Text) : Option (Int32 × Span) := do
  let rest ← Text.afterPrefix? "Breakpoint ".toList (Text.trim line)
  let (digits, rest) := Numeral.digitsAtFront rest
  let number ← Numeral.word? digits
  let rest ←
    (Text.afterPrefix? " activated at ".toList rest).or
      (Text.afterPrefix? " was already set at ".toList rest)
  let span ← (onOneLine? rest).bind Span.read?
  some (number, span)

/-- The span of the report `Stopped at span` or `Stopped in function, span`. -/
def stopReport? (line : Text) : Option Span := do
  let rest ← Text.afterPrefix? "Stopped ".toList (Text.trim line)
  let rest ←
    match Text.afterPrefix? "at ".toList rest with
    | some rest => some rest
    | none => do
        let rest ← Text.afterPrefix? "in ".toList rest
        let (function, rest) ← Text.breakOn? [','] rest
        if function = [] then none else Text.afterPrefix? [' '] rest
  (onOneLine? rest).bind Span.read?

/-- The span of the report `Logged breakpoint at span`. -/
def loggedReport? (line : Text) : Option Span := do
  let rest ← Text.afterPrefix? "Logged breakpoint at ".toList (Text.trim line)
  (onOneLine? rest).bind Span.read?

/-- The last stop report and the lines behind it.  The program may print text
that looks like a report; the one of ghci comes after all of it. -/
def lastStop? : List Text → Option (Span × List Text)
  | [] => none
  | line :: lines =>
      match lastStop? lines with
      | some stop => some stop
      | none => (stopReport? line).map fun span => (span, lines)

/-- The answer to a request for a breakpoint. -/
def breakpoint? : Reader := fun lines =>
  match Entry.skipBlank lines with
  | [] => none
  | line :: rest =>
      (breakpointReport? line).map fun (number, span) => (.breakpoint number span, rest)

/-- The answer to a traced evaluation: what the program printed, the report that
it stopped, and the bindings there. -/
def stopped? : Reader := fun lines =>
  (lastStop? lines).map fun (span, rest) =>
    let (bindings, rest) := Binding.readAll rest
    (.stopped (.top ⟨span, some bindings⟩), rest)

/-!
## Values and types
-/

/-- The answer `expression :: type`. -/
def typed? : Reader := fun lines =>
  if Diagnostic.anyError lines then
    none
  else do
    let (entry, rest) ← Entry.take? (Entry.skipBlank lines)
    let (expression, type) ← Annotation.split? entry
    some (.typed (Text.trim expression) (Text.trim type), rest)

/-- The text of shown output.  A single string literal stands for its string. -/
def shownText : List Text → Text
  | [line] =>
      let text := Text.trim line
      (Literal.decode? text).getD text
  | lines => Text.joinLines lines

/-- The answer to an expression given to a printer. -/
def shown? : Reader := fun lines =>
  if lines = [] ∨ Diagnostic.anyError lines then none
  else some (.output (shownText lines), [])

/-- Output that has no form of its own. -/
def plain? : Reader := fun lines =>
  if Diagnostic.anyError lines then none
  else some (.output (Text.joinLines lines), [])

/-- A list of bindings, possibly empty.  Lines that are no bindings are refused
unless bindings stand in front of them. -/
def bindings? : Reader := fun lines =>
  if Diagnostic.anyError lines then
    none
  else
    let (bindings, rest) := Binding.readAll (Entry.skipBlank lines)
    if rest ≠ [] ∧ bindings = [] then none else some (.bindingList bindings, rest)

/-!
## The evaluation history
-/

/-- The frame of a line `-n : function (span)`, its number counted without the
sign. -/
def historyEntry? (line : Text) : Option StackFrame := do
  let (sign, rest) :=
    match line with
    | '-' :: rest => (['-'], rest)
    | rest => ([], rest)
  let (digits, rest) := Numeral.digitsAtFront rest
  let index ← Numeral.signedWord? (sign ++ digits)
  let rest ← Text.afterPrefix? [':'] (Text.trimStart rest)
  let (function, rest) := Text.breakBlank (Text.trimStart rest)
  if function = [] ∨ ¬ Text.startsBlank rest then
    none
  else
    let rest ← Text.afterPrefix? ['('] (Text.trimStart rest)
    if rest.getLast? = some ')' then
      let span ← (onOneLine? rest.dropLast).bind Span.read?
      some (.named (Span.saturate index.toInt.natAbs) function ⟨span, none⟩)
    else
      none

/-- The frames that a list of lines begins with, and the lines behind them.  The
line that ends the history belongs to it; a line of dots stands for more steps
than ghci prints. -/
def historyFrames : List Text → List StackFrame × List Text
  | [] => ([], [])
  | line :: lines =>
      let text := Text.trim line
      if text = "<end of history>".toList then
        ([], lines)
      else if text = "...".toList then
        historyFrames lines
      else
        match historyEntry? text with
        | some frame =>
            let (frames, rest) := historyFrames lines
            (frame :: frames, rest)
        | none => ([], line :: lines)

/-- The answer to a request for the history. -/
def history? : Reader := fun lines =>
  match Entry.skipBlank lines with
  | [] => none
  | line :: rest =>
      if Text.beginsWith "Empty history.".toList (Text.trim line) then
        some (.history [], rest)
      else
        match historyFrames (line :: rest) with
        | ([], _) => none
        | (frames, rest) => some (.history frames, rest)

/-- The answer to a step through the history.  A stop report in place of a
logged breakpoint tells that the step led back to where the program stopped. -/
def moved? : Reader := fun lines =>
  match Entry.skipBlank lines with
  | [] => none
  | line :: rest => do
      let (span, atTop) ←
        ((loggedReport? line).map fun span => (span, false)).or
          ((stopReport? line).map fun span => (span, true))
      let (bindings, rest) := Binding.readAll rest
      some (.moved ⟨span, bindings, atTop, false⟩, rest)

/-!
## Payloads and answers of unknown form
-/

/-- A line that holds a JSON object. -/
def payload? : Reader := fun lines =>
  match Entry.skipBlank lines with
  | [] => none
  | line :: rest =>
      let text := Text.trim line
      if Text.beginsWith ['\x7b'] text then
        (Json.read? text).map fun data => (.payload data, rest)
      else
        none

/-- A list of bindings that is not empty output. -/
def someBindings? : Reader := fun lines =>
  if lines.all Text.allBlank then none else bindings? lines

/-- The readers whose answers cannot be taken for one another, in the order in
which they are tried. -/
def unambiguous : List Reader :=
  [payload?, breakpoint?, stopped?, moved?, history?, someBindings?]

/-- An answer of whatever form. -/
def any? : Reader := fun lines =>
  unambiguous.findSome? fun read => read lines

end Answer
end GhciBridge
