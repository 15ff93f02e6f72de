import GhciBridge.Text.Blank
import GhciBridge.Text.Numeral
import GhciBridge.Json.Value

/-!
# Source spans

A span is a piece of a source file as ghci names it, in one of three layouts:
`A.hs:3:5`, `A.hs:3:5-9` or `A.hs:(3,5)-(5,2)`.  Lines and columns are kept as
ghci counts them, from 1; consumers read the normalized numbers, with lines from
0 and an exclusive end column.
-/

namespace GhciBridge

structure Span where
  path : Text
  startLine : Int32
  startColumn : Int32
  endLine : Int32
  endColumn : Int32
deriving DecidableEq, Repr

namespace Span

/-- The nearest signed word of 32 bits. -/
def saturate (n : Int) : Int32 :=
  Int32.ofInt (max Int32.minValue.toInt (min Int32.maxValue.toInt n))

/-- The start line, counted from 0. -/
def normalizedStartLine (s : Span) : Int32 :=
  saturate (s.startLine.toInt - 1)

def normalizedStartColumn (s : Span) : Int32 :=
  s.startColumn

/-- The end line, counted from 0. -/
def normalizedEndLine (s : Span) : Int32 :=
  saturate (s.endLine.toInt - 1)

/-- The column behind the span. -/
def normalizedEndColumn (s : Span) : Int32 :=
  saturate (s.endColumn.toInt + 1)

def number (n : Int32) : Text :=
  Text.ofInt n.toInt

/-- The text of a span, in the shortest layout that holds its numbers. -/
def render (s : Span) : Text :=
  if s.startLine = s.endLine then
    if s.startColumn = s.endColumn then
      s.path ++ ':' :: number s.startLine ++ ':' :: number s.startColumn
    else
      s.path ++ ':' :: number s.startLine ++ ':' :: number s.startColumn ++
        '-' :: number s.endColumn
  else
    s.path ++ ":(".toList ++ number s.startLine ++ ',' :: number s.startColumn ++
      ")-(".toList ++ number s.endLine ++ ',' :: number s.endColumn ++ [')']

/-- The span as a JSON object with normalized numbers. -/
def toJson (s : Span) : Json :=
  .object [
    ("file".toList, .string s.path),
    ("startLine".toList, Json.ofInt32 s.normalizedStartLine),
    ("startColumn".toList, Json.ofInt32 s.normalizedStartColumn),
    ("endLine".toList, Json.ofInt32 s.normalizedEndLine),
    ("endColumn".toList, Json.ofInt32 s.normalizedEndColumn)]

/-!
## Reading

A path may hold anything but a line break, so a span is read from its end.  The
readers below take a text backwards, last character first.
-/

/-- The number at the end of a text. -/
def popNumber? (backwards : Text) : Option (Int32 × Text) :=
  let (digits, rest) := Numeral.digitsAtFront backwards
  (Numeral.word? digits.reverse).map fun n => (n, rest)

/-- The text in front of a mark at the end of a text. -/
def popMark? (mark : Text) (backwards : Text) : Option Text :=
  Text.afterPrefix? mark.reverse backwards

/-- What is left in front of the numbers has to be a path. -/
def popPath? (backwards : Text) : Option Text :=
  if backwards ≠ [] ∧ '\n' ∉ backwards then some backwards.reverse else none

/-- The layout `path:line:column`. -/
def readPoint? (backwards : Text) : Option Span := do
  let (column, rest) ← popNumber? backwards
  let rest ← popMark? [':'] rest
  let (line, rest) ← popNumber? rest
  let rest ← popMark? [':'] rest
  let path ← popPath? rest
  some ⟨path, line, column, line, column⟩

/-- The layout `path:line:column-column`. -/
def readColumns? (backwards : Text) : Option Span := do
  let (last, rest) ← popNumber? backwards
  let rest ← popMark? ['-'] rest
  let point ← readPoint? rest
  some { point with endColumn := last }

/-- The layout `path:(line,column)-(line,column)`. -/
def readLines? (backwards : Text) : Option Span := do
  let rest ← popMark? [')'] backwards
  let (endColumn, rest) ← popNumber? rest
  let rest ← popMark? [','] rest
  let (endLine, rest) ← popNumber? rest
  let rest ← popMark? ")-(".toList rest
  let (startColumn, rest) ← popNumber? rest
  let rest ← popMark? [','] rest
  let (startLine, rest) ← popNumber? rest
  let rest ← popMark? ":(".toList rest
  let path ← popPath? rest
  some ⟨path, startLine, startColumn, endLine, endColumn⟩

/-- The span that a text spells, blank characters around it apart. -/
def read? (text : Text) : Option Span :=
  let backwards := (Text.trim text).reverse
  (readLines? backwards).or ((readColumns? backwards).or (readPoint? backwards))

end Span
end GhciBridge
