import GhciBridge.Wire.Event
import GhciBridge.Wire.Lines

/-!
# Reading the output of ghci

The output arrives as bytes.  Every complete line is decoded and classified; the
bytes of a line that is not complete yet are kept.  A line that is not UTF-8
ends the reading for good.
-/

namespace GhciBridge

/-- The characters that bytes encode. -/
def decodeUtf8? (bytes : List UInt8) : Option Text :=
  (String.fromUTF8? ⟨bytes.toArray⟩).map String.toList

/-- The bytes that encode a text. -/
def encodeUtf8 (text : Text) : List UInt8 :=
  (String.ofList text).toUTF8.data.toList

/-- The state of the reading: the start of the current line, and whether the
reading has ended. -/
structure Feed where
  sentinel : Text
  partialLine : List UInt8
  ended : Bool
deriving DecidableEq

namespace Feed

/-- The byte of a line break. -/
def lineBreak : UInt8 := 0x0A

def start (sentinel : Text) : Feed :=
  ⟨sentinel, [], false⟩

/-- The events of a list of lines, and whether all of them could be decoded. -/
def readLines (sentinel : Text) : List (List UInt8) → List Event × Bool
  | [] => ([], true)
  | line :: lines =>
      match decodeUtf8? line with
      | none => ([.closed], false)
      | some text =>
          let (events, complete) := readLines sentinel lines
          (Event.classify sentinel text ++ events, complete)

/-- More output. -/
def push (feed : Feed) (bytes : List UInt8) : List Event × Feed :=
  if feed.ended then
    ([], feed)
  else
    let (lines, last) := Lines.cut lineBreak (feed.partialLine ++ bytes)
    let (events, complete) := readLines feed.sentinel lines
    (events, { feed with partialLine := last, ended := !complete })

/-- The end of the output. -/
def finish (feed : Feed) : List Event × Feed :=
  if feed.ended then
    ([], feed)
  else
    let lines := if feed.partialLine = [] then [] else [feed.partialLine]
    let (events, complete) := readLines feed.sentinel lines
    (if complete then events ++ [.closed] else events,
      { feed with partialLine := [], ended := true })

/-- All the events of a stream of bytes. -/
def events (sentinel : Text) (bytes : List UInt8) : List Event :=
  let (first, feed) := (start sentinel).push bytes
  first ++ feed.finish.1

end Feed
end GhciBridge
