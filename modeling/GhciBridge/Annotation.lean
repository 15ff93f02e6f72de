import GhciBridge.Text.Basic

/-!
# Type annotations

In `expression :: type` the separator is the first ` :: ` outside all brackets
and string literals.  The scan keeps the nesting of the text read so far: how
many brackets are open, of whatever kind, and whether a string literal is.
-/

namespace GhciBridge
namespace Annotation

inductive Mode where
  | code
  | string
  /-- After a backslash in a string literal. -/
  | escape
deriving DecidableEq, Repr

/-- Open brackets less closed ones, and the kind of text at this point. -/
structure Nesting where
  depth : Int
  mode : Mode
deriving DecidableEq, Repr

namespace Nesting

def start : Nesting := ⟨0, .code⟩

/-- The nesting behind one more character. -/
def step (n : Nesting) (c : Char) : Nesting :=
  match n.mode with
  | .escape => { n with mode := .string }
  | .string =>
      if c = '\\' then { n with mode := .escape }
      else if c = '"' then { n with mode := .code }
      else n
  | .code =>
      if c = '"' then { n with mode := .string }
      else if c = '(' ∨ c = '[' ∨ c = '\x7b' then { n with depth := n.depth + 1 }
      else if c = ')' ∨ c = ']' ∨ c = '\x7d' then { n with depth := n.depth - 1 }
      else n

/-- The nesting behind a text. -/
def after (n : Nesting) (text : Text) : Nesting :=
  text.foldl step n

/-- Whether a separator counts at this point. -/
def isOutside (n : Nesting) : Bool :=
  n.depth == 0 && n.mode == .code

end Nesting

/-- The text between an expression and its type. -/
def separator : Text := " :: ".toList

/-- The expression and the type of an annotated text, given the nesting in front
of it. -/
def splitFrom? (n : Nesting) : Text → Option (Text × Text)
  | [] => none
  | c :: text =>
      match if n.isOutside then Text.afterPrefix? separator (c :: text) else none with
      | some type => some ([], type)
      | none => (splitFrom? (n.step c) text).map fun cut => (c :: cut.1, cut.2)

/-- The expression and the type of an annotated text. -/
def split? (text : Text) : Option (Text × Text) :=
  splitFrom? .start text

end Annotation
end GhciBridge
