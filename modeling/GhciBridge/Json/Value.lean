import GhciBridge.Json.Binary64

/-!
# JSON values and their compact text

An object is a list of fields, written in the order of the list.  Keys are
compared by code points, which is also the order of their bytes in UTF-8.
-/

namespace GhciBridge

inductive Json where
  | null
  | bool (b : Bool)
  | int (n : Int)
  | double (x : Json.Binary64)
  | string (s : Text)
  | array (items : List Json)
  | object (fields : List (Text × Json))
deriving Repr

namespace Json

/-- The form of one character between the quotes of a JSON string. -/
def escapeChar (c : Char) : Text :=
  match c with
  | '"' => ['\\', '"']
  | '\\' => ['\\', '\\']
  | '\n' => ['\\', 'n']
  | '\r' => ['\\', 'r']
  | '\t' => ['\\', 't']
  | '\x08' => ['\\', 'b']
  | '\x0c' => ['\\', 'f']
  | c =>
      if c.toNat < 0x20 then
        "\\u00".toList ++ [(c.toNat / 16).digitChar, (c.toNat % 16).digitChar]
      else
        [c]

/-- A text as a JSON string. -/
def stringText (s : Text) : Text :=
  '"' :: s.flatMap escapeChar ++ ['"']

mutual

/-- The compact text of a value, followed by `rest`. -/
def render (rest : Text) : Json → Text
  | .null => "null".toList ++ rest
  | .bool b => (if b then "true".toList else "false".toList) ++ rest
  | .int n => Text.ofInt n ++ rest
  | .double x => x.toText ++ rest
  | .string s => stringText s ++ rest
  | .array items => '[' :: renderItems (']' :: rest) items
  | .object fields => '\x7b' :: renderFields ('\x7d' :: rest) fields

def renderItems (rest : Text) : List Json → Text
  | [] => rest
  | [item] => render rest item
  | item :: next :: items =>
      render (',' :: renderItems rest (next :: items)) item

def renderFields (rest : Text) : List (Text × Json) → Text
  | [] => rest
  | [(key, value)] => stringText key ++ ':' :: render rest value
  | (key, value) :: next :: fields =>
      stringText key ++ ':' :: render (',' :: renderFields rest (next :: fields)) value

end

/-- The compact text of a value. -/
def compact (value : Json) : Text :=
  render [] value

/-- Whether a key comes before another in the order of code points. -/
def keyBefore : Text → Text → Bool
  | _, [] => false
  | [], _ :: _ => true
  | a :: as, b :: bs =>
      a.toNat < b.toNat || (a == b && keyBefore as bs)

/-- Fields sorted by key with one more field in its place; a field of the same
key gives way to it. -/
def insertField (key : Text) (value : Json) : List (Text × Json) → List (Text × Json)
  | [] => [(key, value)]
  | (k, v) :: fields =>
      if key = k then (key, value) :: fields
      else if keyBefore key k then (key, value) :: (k, v) :: fields
      else (k, v) :: insertField key value fields

/-- The value of a field of an object. -/
def field? (key : Text) : Json → Option Json
  | .object fields => (fields.find? (·.1 = key)).map (·.2)
  | _ => none

def ofOption (encode : α → Json) : Option α → Json
  | none => .null
  | some a => encode a

def ofInt32 (n : Int32) : Json :=
  .int n.toInt

end Json
end GhciBridge
