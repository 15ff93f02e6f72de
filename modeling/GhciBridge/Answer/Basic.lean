import GhciBridge.Frame

/-!
# Answers

An answer is what ghci's output for one command means.  Every answer has a text
for people and a JSON object for programs, tagged by its kind.
-/

namespace GhciBridge

inductive Answer where
  /-- A breakpoint was set. -/
  | breakpoint (number : Int32) (span : Span)
  /-- The program stopped. -/
  | stopped (frame : StackFrame)
  /-- An expression has a type. -/
  | typed (expression : Text) (type : Text)
  /-- Output without a form of its own. -/
  | output (text : Text)
  /-- The evaluation history, most recent step first. -/
  | history (frames : List StackFrame)
  | bindingList (list : List Binding)
  /-- A step through the history. -/
  | moved (step : HistoryStep)
  /-- A JSON object. -/
  | payload (data : Json)

namespace Answer

/-- Texts that each end their line. -/
def linesText (lines : List Text) : Text :=
  lines.flatMap (· ++ ['\n'])

/-- Bindings below a heading. -/
def indented (bindings : List Binding) : Text :=
  linesText (bindings.map fun b => "  ".toList ++ b.render)

/-- The remark on the end of the history that a step reached. -/
def marker (step : HistoryStep) : Text :=
  if step.atTop then " [top]".toList
  else if step.atBottom then " [bottom]".toList
  else []

/-- The text of an answer for people. -/
def render : Answer → Text
  | .breakpoint number span =>
      "breakpoint ".toList ++ Span.number number ++ " at ".toList ++ span.render
  | .stopped frame =>
      linesText ["stopped at ".toList ++ frame.render] ++ indented frame.bindings
  | .typed expression type => expression ++ " :: ".toList ++ type
  | .output text => text
  | .history frames =>
      if frames = [] then "<empty history>".toList
      else linesText (frames.map StackFrame.render)
  | .bindingList list => linesText (list.map Binding.render)
  | .moved step =>
      linesText ["at ".toList ++ step.span.render ++ marker step] ++ indented step.bindings
  | .payload data => data.compact

/-- A JSON object whose first field tells the kind of answer. -/
def tagged (kind : String) (fields : List (String × Json)) : Json :=
  .object (("type".toList, .string kind.toList) ::
    fields.map fun field => (field.1.toList, field.2))

def toJson : Answer → Json
  | .breakpoint number span =>
      tagged "breakpointHit"
        [("breakpointNumber", Json.ofInt32 number), ("position", span.toJson)]
  | .stopped frame => tagged "stopped" [("frame", frame.toJson)]
  | .typed expression type =>
      tagged "expressionType" [("expression", .string expression), ("typeText", .string type)]
  | .output text => tagged "showOutput" [("text", .string text)]
  | .history frames => tagged "history" [("frames", .array (frames.map StackFrame.toJson))]
  | .bindingList list =>
      tagged "bindingList" [("bindings", .array (list.map Binding.toJson))]
  | .moved step =>
      tagged "historyMove" [
        ("position", step.span.toJson),
        ("bindings", .array (step.bindings.map Binding.toJson)),
        ("atTop", .bool step.atTop),
        ("atBottom", .bool step.atBottom)]
  | .payload data => tagged "structuredPayload" [("data", data)]

end Answer
end GhciBridge
