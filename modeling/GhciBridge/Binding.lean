import GhciBridge.Annotation
import GhciBridge.Entry
import GhciBridge.Json.Value

/-!
# Bindings

A binding is a variable that ghci reports while a computation is stopped, as
`name :: type = value`.  Each of the three parts may be missing; a value that is
not evaluated yet is written `_` and counts as missing.
-/

namespace GhciBridge

structure Binding where
  name : Option Text
  typeName : Option Text
  value : Option Text
deriving DecidableEq, Repr

namespace Binding

/-- The text of a binding.  A value that stands alone has no `=` in front. -/
def render (b : Binding) : Text :=
  let declared := b.name.toList ++ (b.typeName.map (":: ".toList ++ ·)).toList
  let value :=
    match b.value with
    | some value => if declared = [] then value else "= ".toList ++ value
    | none => "= _".toList
  Text.joinWords (declared ++ [value])

def toJson (b : Binding) : Json :=
  .object [
    ("name".toList, Json.ofOption .string b.name),
    ("typeName".toList, Json.ofOption .string b.typeName),
    ("value".toList, Json.ofOption .string b.value)]

/-- Whether a text can name a variable. -/
def isName (text : Text) : Bool :=
  text ≠ [] && !text.any Text.isBlank

/-- The value that a text in the place of a value stands for. -/
def valueOf (text : Text) : Option Text :=
  let value := Text.trim text
  if value = ['_'] then none else some value

/-- The text between a variable or its type and the value. -/
def equals : Text := " = ".toList

/-- The binding that the text of an entry spells. -/
def read? (entry : Text) : Option Binding :=
  match Annotation.split? entry with
  | some (name, rest) =>
      let name := Text.trim name
      if isName name then
        match Text.breakOn? equals rest with
        | some (typeName, value) => some ⟨some name, some (Text.trim typeName), valueOf value⟩
        | none => some ⟨some name, some (Text.trim rest), none⟩
      else
        none
  | none =>
      match Text.breakOn? equals entry with
      | some (name, value) =>
          let name := Text.trim name
          if isName name then some ⟨some name, none, valueOf value⟩ else none
      | none => none

/-- The bindings that a list of lines begins with, and the lines behind the last
of them. -/
def readAll (lines : List Text) : List Binding × List Text :=
  match _h : Entry.take? (Entry.skipBlank lines) with
  | none => ([], lines)
  | some (entry, rest) =>
      match read? entry with
      | none => ([], lines)
      | some binding =>
          let (bindings, rest) := readAll rest
          (binding :: bindings, rest)
termination_by lines.length
decreasing_by
  have hrest := Entry.length_of_take? _h
  have hskip := Entry.length_skipBlank_le lines
  omega

end Binding
end GhciBridge
