import GhciBridge.Json.Number
import GhciBridge.Json.Tree

/-!
# Reading JSON values

A value keeps one field per key of an object, the last one, and sorts them by
key.  The containers around any one of its parts are bounded in number.
-/

namespace GhciBridge
namespace Json

namespace Tree

mutual

/-- The value of a tree in which at most `depth` containers lie within each
other. -/
def value? (depth : Nat) : Tree → Option Json
  | .null => some .null
  | .bool b => some (.bool b)
  | .number n => n.value?
  | .string s => s.map .string
  | .array items =>
      if depth = 0 then none else (values? (depth - 1) items).map .array
  | .object fields =>
      if depth = 0 then none else (fields? (depth - 1) [] fields).map .object

def values? (depth : Nat) : List Tree → Option (List Json)
  | [] => some []
  | item :: items => do
      let value ← value? depth item
      let values ← values? depth items
      some (value :: values)

/-- The fields of an object on top of those in front of them. -/
def fields? (depth : Nat) (before : List (Text × Json)) :
    List (Option Text × Tree) → Option (List (Text × Json))
  | [] => some before
  | (key, item) :: fields => do
      let key ← key
      let value ← value? depth item
      fields? depth (insertField key value before) fields

end

end Tree

/-- The value of a JSON text in which at most `depth` containers lie within each
other. -/
def readWithin? (depth : Nat) (text : Text) : Option Json :=
  (Tree.read? text).bind (Tree.value? depth)

/-- The number of containers that may lie within each other in a payload. -/
def payloadDepth : Nat := 127

/-- The value of a JSON payload. -/
def read? (text : Text) : Option Json :=
  readWithin? payloadDepth text

end Json
end GhciBridge
