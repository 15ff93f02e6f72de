import GhciBridge.Text.Basic

/-!
# Shell words

A line of arguments is split the way a POSIX shell splits it: words are
separated by spaces, tabs and line breaks, single quotes keep everything,
double quotes keep everything but a few escapes, a backslash keeps the next
character, and a `#` at the start of a word begins a comment.
-/

namespace GhciBridge
namespace ShellWords

/-- Where the scan stands in the line. -/
inductive Place where
  /-- Between two words. -/
  | gap
  /-- In a comment, up to the end of the line. -/
  | comment
  /-- In a word, outside quotes. -/
  | word
  /-- After a backslash in a word. -/
  | escape
  /-- Between single quotes. -/
  | single
  /-- Between double quotes. -/
  | double
  /-- After a backslash between double quotes. -/
  | doubleEscape
deriving DecidableEq, Repr

def isSeparator (c : Char) : Bool :=
  c == ' ' || c == '\t' || c == '\n'

/-- The place after a character that is not a separator and stands outside
quotes, and the characters it adds to the word. -/
def enter (c : Char) : Place × Text :=
  match c with
  | '"' => (.double, [])
  | '\'' => (.single, [])
  | '\\' => (.escape, [])
  | c => (.word, [c])

/-- The characters that a backslash between double quotes adds with the
character after it: the few that have a meaning there lose the backslash. -/
def escapedInDouble (c : Char) : Text :=
  if c == '$' || c == '\x60' || c == '"' || c == '\\' then [c]
  else if c == '\n' then []
  else ['\\', c]

/-- The words of the rest of a line, given the place and the part of the
current word already read.  A quote or a backslash that the line leaves open
makes the line meaningless. -/
def scan : Place → Text → Text → Option (List Text)
  | .gap, _, [] => some []
  | .comment, _, [] => some []
  | .word, word, [] => some [word]
  | .escape, _, [] => none
  | .single, _, [] => none
  | .double, _, [] => none
  | .doubleEscape, _, [] => none
  | .gap, _, c :: rest =>
      if isSeparator c then scan .gap [] rest
      else if c == '#' then scan .comment [] rest
      else scan (enter c).1 (enter c).2 rest
  | .comment, _, c :: rest =>
      if c == '\n' then scan .gap [] rest else scan .comment [] rest
  | .word, word, c :: rest =>
      if isSeparator c then (scan .gap [] rest).map (word :: ·)
      else scan (enter c).1 (word ++ (enter c).2) rest
  | .escape, word, c :: rest =>
      scan .word (if c == '\n' then word else word ++ [c]) rest
  | .single, word, c :: rest =>
      if c == '\'' then scan .word word rest else scan .single (word ++ [c]) rest
  | .double, word, c :: rest =>
      if c == '"' then scan .word word rest
      else if c == '\\' then scan .doubleEscape word rest
      else scan .double (word ++ [c]) rest
  | .doubleEscape, word, c :: rest =>
      scan .double (word ++ escapedInDouble c) rest

/-- The words of a line, if every quote in it is closed. -/
def split? (line : Text) : Option (List Text) :=
  scan .gap [] line

end ShellWords
end GhciBridge
