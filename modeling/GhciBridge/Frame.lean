import GhciBridge.Binding
import GhciBridge.Span

/-!
# Stack frames

A frame is a place in the program with the bindings visible there.  The top
frame is the one ghci is stopped in; the frames of the evaluation history carry
the name of their function and count back from the most recent step, which is
number 1.
-/

namespace GhciBridge

/-- A place, and the bindings visible there if they are known. -/
structure FrameInfo where
  span : Span
  bindings : Option (List Binding)
deriving DecidableEq, Repr

namespace FrameInfo

def toJsonFields (info : FrameInfo) : List (Text × Json) := [
  ("position".toList, info.span.toJson),
  ("bindings".toList,
    Json.ofOption (fun bindings => .array (bindings.map Binding.toJson)) info.bindings)]

end FrameInfo

inductive StackFrame where
  | top (info : FrameInfo)
  | named (index : Int32) (function : Text) (info : FrameInfo)
deriving DecidableEq, Repr

namespace StackFrame

def info : StackFrame → FrameInfo
  | .top info => info
  | .named _ _ info => info

def span (frame : StackFrame) : Span :=
  frame.info.span

/-- The bindings of a frame, none if they are unknown. -/
def bindings (frame : StackFrame) : List Binding :=
  frame.info.bindings.getD []

def render : StackFrame → Text
  | .top info => info.span.render
  | .named index function info =>
      '#' :: Span.number index ++ ' ' :: function ++ " (".toList ++ info.span.render ++ [')']

def toJson : StackFrame → Json
  | .top info => .object (("kind".toList, .string "top".toList) :: info.toJsonFields)
  | .named index function info =>
      .object [
        ("kind".toList, .string "named".toList),
        ("index".toList, Json.ofInt32 index),
        ("functionName".toList, .string function),
        ("frame".toList, .object info.toJsonFields)]

end StackFrame

/-- Where a step through the evaluation history led, and whether that is the
newest or the oldest step. -/
structure HistoryStep where
  span : Span
  bindings : List Binding
  atTop : Bool
  atBottom : Bool
deriving DecidableEq, Repr

end GhciBridge
