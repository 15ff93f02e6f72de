import GhciBridge.Console.Request
import GhciBridge.Session.Query

/-!
# The console

The console reads requests line by line, carries them out in a session and
prints what comes of them, as text or as JSON.  A fatal fault ends it; any other
fault is reported and the next line is read.
-/

namespace GhciBridge
namespace Console

def help : Text :=
  ("Commands: (b)reak <Module> <line>, delete <Module> <line>, breakpoints, " ++
    "trace <expr>, (t)ype <expr>, (p)rint <expr>, force <expr>, history, back, " ++
    "forward, bindings, load <file>, :<ghci command>, (q)uit").toList

/-- What is printed in front of every line of input. -/
def prompt : Text := "> ".toList

/-- A message about something that went wrong. -/
def complaint (message : Text) : Text :=
  "❌ ".toList ++ message

/-- What a request comes to: nothing to print, text of the console's own, or an
answer. -/
inductive Response where
  | nothing
  | plain (text : Text)
  | answer (answer : Answer)

def Response.render (json : Bool) : Response → Option Text
  | .nothing => none
  | .plain text => some text
  | .answer result => some (if json then result.toJson.compact else result.render)

/-- An answer with a text of the console's own. -/
def note (text : Text) : Response :=
  .answer (.output text)

/-- A spot as messages name it. -/
def spotText (module : Text) (line : Nat) : Text :=
  module ++ ':' :: Text.ofNat line

/-- The list of breakpoints, one on each line. -/
def listing (points : Breakpoints) : Text :=
  Text.joinLines (points.toList.map fun point =>
    Span.number point.number ++ ": ".toList ++ point.span.render)

/-- What is said when a traced expression stopped or did not. -/
def traceResponse (expression : Text) : Option StackFrame → Response
  | some frame => .answer (.stopped frame)
  | none => note (expression ++ " finished without stopping".toList)

def removalResponse (module : Text) (line : Nat) (removed : Bool) : Response :=
  if removed then
    note ("breakpoint at ".toList ++ spotText module line ++ " removed".toList)
  else
    note ("no breakpoint at ".toList ++ spotText module line)

/-- The result of a step of the session, turned into a response. -/
def respond (f : α → Response) (step : Session.Step η α) : Session.Step η Response :=
  (step.1, step.2.map f)

/-- The value of an expression with its type, if it has one. -/
def print [Peer η] (s : Session η) (expression : Text) : Session.Step η Binding :=
  match s.typeOf expression with
  | (s, .ok type) => s.evaluate expression (some type)
  | (s, .error fault) =>
      if fault.isFatal then (s, .error fault) else s.evaluate expression none

/-- Carries out a request. -/
def carryOut [Peer η] (s : Session η) : Request → Session.Step η Response
  | .empty => (s, .ok .nothing)
  | .quit => (s, .ok .nothing)
  | .help => (s, .ok (.plain help))
  | .step request => respond (fun _ => .nothing) (s.step request)
  | .setBreakpoint module line =>
      respond (fun point => .answer (.breakpoint point.number point.span))
        (s.setBreakpoint module line)
  | .deleteBreakpoint module line =>
      respond (removalResponse module line) (s.removeBreakpoint module line)
  | .breakpoints => (s, .ok (note (listing s.breakpoints)))
  | .trace expression => respond (traceResponse expression) (s.trace expression)
  | .typeOf expression =>
      respond (fun type => .answer (.typed expression type)) (s.typeOf expression)
  | .print expression =>
      respond (fun binding => .answer (.bindingList [binding])) (print s expression)
  | .force expression => respond (fun list => .answer (.bindingList list)) (s.force expression)
  | .history => respond (fun frames => .answer (.history frames)) s.history
  | .back => respond (fun step => .answer (.moved step)) s.back
  | .forward => respond (fun step => .answer (.moved step)) s.forward
  | .bindings => respond (fun list => .answer (.bindingList list)) s.bindings
  | .load path => respond (fun _ => note ("loaded ".toList ++ path)) (s.load path)
  | .raw text => respond .answer (s.raw text)

/-!
## The conversation
-/

/-- A conversation: what was printed, the fault that ended it if one did, and the
session after it. -/
structure Conversation (η : Type) where
  out : Text
  fault : Option Fault
  session : Session η

/-- Text printed in front of a conversation. -/
def Conversation.after (text : Text) (c : Conversation η) : Conversation η :=
  { c with out := text ++ c.out }

/-- A text on a line of its own. -/
def lineText (text : Text) : Text :=
  text ++ ['\n']

/-- The conversation over the given lines of input, each as its bytes.  It ends
with the lines, with a request to quit, with a line that is no text, or with a
fatal fault. -/
def converse [Peer η] (json : Bool) : List (List UInt8) → Session η → Conversation η
  | [], s => ⟨prompt, none, s⟩
  | bytes :: lines, s =>
      match decodeUtf8? bytes with
      | none => ⟨prompt, some .io, s⟩
      | some line =>
          match Request.read line with
          | .error misuse =>
              (converse json lines s).after
                (prompt ++ lineText (complaint misuse.message))
          | .ok request =>
              if request = .quit then
                ⟨prompt, none, s⟩
              else
                match carryOut s request with
                | (s, .ok response) =>
                    let printed := (response.render json).map fun text =>
                      lineText (Text.trimEnd text)
                    (converse json lines s).after (prompt ++ printed.getD [])
                | (s, .error fault) =>
                    let printed := prompt ++ lineText (complaint fault.message)
                    if fault.isFatal then ⟨printed, some fault, s⟩
                    else (converse json lines s).after printed

/-- The whole console over an input. -/
def run [Peer η] (json : Bool) (input : List UInt8) (s : Session η) : Conversation η :=
  (converse json (Lines.all Feed.lineBreak input) s).after (lineText help)

end Console
end GhciBridge
