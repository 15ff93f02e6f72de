import GhciBridge.Json.Token

/-!
# JSON trees

The grammatical level of JSON: a tree of tokens, with every field of every
object in the order of the text.  A machine with a stack of open containers
builds the tree, one token at a time; nesting is not bounded.
-/

namespace GhciBridge
namespace Json

inductive Tree where
  | null
  | bool (b : Bool)
  | number (n : Number)
  | string (s : Option Text)
  | array (items : List Tree)
  | object (fields : List (Option Text × Tree))

/-- A container that is still open, with what was read of it so far, last item
first.  An object also keeps the key in front of its next value. -/
inductive Container where
  | array (items : List Tree)
  | object (fields : List (Option Text × Tree)) (key : Option Text)

/-- What the next token has to be. -/
inductive Expected where
  | value
  | valueOrClose
  | key
  | keyOrClose
  | colon
  | commaOrClose
  | nothing (result : Tree)

structure Builder where
  expected : Expected
  containers : List Container

namespace Builder

def start : Builder := ⟨.value, []⟩

/-- A complete value in the innermost open container. -/
def place (value : Tree) : List Container → Builder
  | [] => ⟨.nothing value, []⟩
  | .array items :: outer => ⟨.commaOrClose, .array (value :: items) :: outer⟩
  | .object fields key :: outer =>
      ⟨.commaOrClose, .object ((key, value) :: fields) key :: outer⟩

/-- A token where a value is due. -/
def takeValue? (containers : List Container) : Token → Option Builder
  | .null => some (place .null containers)
  | .bool b => some (place (.bool b) containers)
  | .number n => some (place (.number n) containers)
  | .string s => some (place (.string s) containers)
  | .openBracket => some ⟨.valueOrClose, .array [] :: containers⟩
  | .openBrace => some ⟨.keyOrClose, .object [] none :: containers⟩
  | _ => none

def takeKey? (containers : List Container) : Token → Option Builder
  | .string key =>
      match containers with
      | .object fields _ :: outer => some ⟨.colon, .object fields key :: outer⟩
      | _ => none
  | _ => none

/-- The end of the innermost container. -/
def close? (containers : List Container) : Token → Option Builder
  | .closeBracket =>
      match containers with
      | .array items :: outer => some (place (.array items.reverse) outer)
      | _ => none
  | .closeBrace =>
      match containers with
      | .object fields _ :: outer => some (place (.object fields.reverse) outer)
      | _ => none
  | _ => none

/-- What comes behind a comma in the innermost container. -/
def afterComma? (containers : List Container) : Option Builder :=
  match containers with
  | .array _ :: _ => some ⟨.value, containers⟩
  | .object _ _ :: _ => some ⟨.key, containers⟩
  | [] => none

/-- One token. -/
def step? (builder : Builder) (token : Token) : Option Builder :=
  match builder.expected with
  | .value => takeValue? builder.containers token
  | .valueOrClose =>
      (close? builder.containers token).or (takeValue? builder.containers token)
  | .key => takeKey? builder.containers token
  | .keyOrClose =>
      (close? builder.containers token).or (takeKey? builder.containers token)
  | .colon => if token = .colon then some { builder with expected := .value } else none
  | .commaOrClose =>
      if token = .comma then afterComma? builder.containers
      else close? builder.containers token
  | .nothing _ => none

/-- The tree that a whole list of tokens spells. -/
def run? (builder : Builder) : List Token → Option Tree
  | [] =>
      match builder.expected with
      | .nothing tree => some tree
      | _ => none
  | token :: tokens => (builder.step? token).bind fun next => run? next tokens

end Builder

/-- The tree that a text spells. -/
def Tree.read? (text : Text) : Option Tree :=
  (tokens? text).bind (Builder.run? .start)

end Json
end GhciBridge
