import GhciBridge.Interpreter.Basic
import GhciBridge.Proofs.Exchange.Input
import GhciBridge.Proofs.Wire.Answer
import Mathlib.Data.List.GetD

/-!
# The dialogue with a scripted interpreter

Since its last start an interpreter has read the line that sets the prompt, then
the lines of commands, then perhaps the line on which it quits.  The lines of
commands count the replies: each is answered by the reply of its own number.

An exchange is level with its interpreter if all that was printed has been looked
at.  Executing a command leaves the two level, or ends in a fatal fault.
-/

namespace GhciBridge
namespace Interpreter

/-!
## What an interpreter has read
-/

/-- The lines behind the last start of a log. -/
def sinceStart (log : List Sight) : List Text :=
  log.foldl
    (fun lines sight =>
      match sight with
      | .start _ => []
      | .line text => lines ++ [text])
    []

/-- The lines of commands since the last start. -/
def commandLines (i : Interpreter) : List Text :=
  ((sinceStart i.log).drop 1).filter (· ≠ quit)

@[simp] theorem sinceStart_start
    (log : List Sight) (arguments : List Text) :
    sinceStart (log ++ [.start arguments]) = [] := by
  simp [sinceStart]

@[simp] theorem sinceStart_line
    (log : List Sight) (line : Text) :
    sinceStart (log ++ [.line line]) = sinceStart log ++ [line] := by
  simp [sinceStart]

/-!
## What an interpreter says
-/

/-- The reply to the command line of a number; behind the end of the script it is
an empty line of text. -/
def replyTo (script : Script) (n : Nat) : Reply :=
  script.answers.getD n (.ofText [])

theorem reply_answering
    (script : Script) (n : Nat) :
    reply script (.answering (script.answers.drop n)) =
      (replyTo script n, .answering (script.answers.drop (n + 1))) := by
  by_cases hn : n < script.answers.length
  · rw [List.drop_eq_getElem_cons hn, reply, replyTo, List.getD_eq_getElem _ _ hn]
  · have hlength : script.answers.length ≤ n := Nat.le_of_not_lt hn
    have hlength' : script.answers.length ≤ n + 1 := Nat.le_succ_of_le hlength
    rw [List.drop_eq_nil_of_le hlength, List.drop_eq_nil_of_le hlength', reply, replyTo,
      List.getD_eq_default _ _ hlength]

theorem hearLine_of_stage
    {i : Interpreter} {stage : Stage} {line : Text} (hstage : i.stage = some stage)
    (hline : line ≠ quit) :
    i.hearLine line =
      (⟨encodeUtf8 ((reply i.script stage).1.print i.script.sentinel),
          (reply i.script stage).1.exits⟩,
        { i with
          stage := if (reply i.script stage).1.exits then none else some (reply i.script stage).2
          log := i.log ++ [.line line] }) := by
  simp only [hearLine, hstage, if_neg hline]

@[simp] theorem script_hearLine
    (i : Interpreter) (line : Text) :
    (i.hearLine line).2.script = i.script := by
  unfold hearLine
  split
  · rfl
  · split
    · rfl
    · rfl

theorem commandLines_hearLine_quit
    (i : Interpreter) :
    (i.hearLine quit).2.commandLines = i.commandLines := by
  unfold hearLine
  split
  · rfl
  · rw [if_pos rfl, commandLines, sinceStart_line, commandLines]
    cases sinceStart i.log with
    | nil => simp
    | cons first lines => simp

theorem write_of_ended
    {i : Interpreter} (hstage : i.stage = none) (text : Text) :
    Peer.write i text = (none, i) := by
  show i.write text = (none, i)
  simp only [write, hstage]

theorem write_of_running
    {i : Interpreter} {stage : Stage} {line : Text} (hstage : i.stage = some stage)
    (hline : '\n' ∉ line) :
    Peer.write i (line ++ ['\n']) = (some (i.hearLine line).1, (i.hearLine line).2) := by
  have hcut : Lines.cut '\n' (line ++ ['\n']) = ([line ++ ['\n']], []) :=
    Lines.cut_terminated hline []
  show i.write (line ++ ['\n']) = _
  simp [write, hstage, hcut, hearLines, Speech.append, Speech.silence]

/-- An interpreter that waits for a command: the next reply is the one whose
number is the count of the command lines. -/
structure IsListening (i : Interpreter) : Prop where
  stage : i.stage = some (.answering (i.script.answers.drop i.commandLines.length))
  begun : sinceStart i.log ≠ []

namespace IsListening

variable {i : Interpreter} {line : Text}

theorem commandLines_hearLine
    (h : i.IsListening) (hline : line ≠ quit) :
    (i.hearLine line).2.commandLines = i.commandLines ++ [line] := by
  rw [hearLine_of_stage h.stage hline, commandLines, commandLines, sinceStart_line]
  cases hbegun : sinceStart i.log with
  | nil => exact absurd hbegun h.begun
  | cons first lines => simp [hline]

theorem speech
    (h : i.IsListening) (hline : line ≠ quit) :
    (i.hearLine line).1 =
      ⟨encodeUtf8 ((replyTo i.script i.commandLines.length).print i.script.sentinel),
        (replyTo i.script i.commandLines.length).exits⟩ := by
  rw [hearLine_of_stage h.stage hline, reply_answering]

theorem hearLine
    (h : i.IsListening) (hline : line ≠ quit)
    (hexits : (replyTo i.script i.commandLines.length).exits = false) :
    (i.hearLine line).2.IsListening := by
  have hlines := h.commandLines_hearLine hline
  constructor
  · rw [hlines, List.length_append, List.length_singleton, hearLine_of_stage h.stage hline,
      reply_answering, hexits]
    rfl
  · rw [hearLine_of_stage h.stage hline, sinceStart_line]
    simp

end IsListening
end Interpreter

namespace Reply

/-- A reply that is a text with the prompt behind it, and has no other prompt. -/
structure IsPrompted (sentinel text : Text) (reply : Reply) : Prop where
  print : reply.print sentinel = text ++ sentinel ++ ['\n']
  first : ¬ sentinel <:+: text ++ sentinel.dropLast
  goesOn : reply.exits = false

def IsQuiet (sentinel : Text) (reply : Reply) : Prop :=
  ¬ sentinel <:+: reply.print sentinel

/-- What a command makes of a reply: the reading of its lines if there is a prompt
behind them, and nothing if there is none. -/
structure Answers (sentinel : Text) (reply : Reply) (command : Command)
    (answer : Option Answer) : Prop where
  prompted : ∀ text,
    reply.IsPrompted sentinel text → answer = command.complete (answerLines text)
  quiet : reply.IsQuiet sentinel → answer = none

theorem IsPrompted.eq_text
    {sentinel text text' : Text} {reply : Reply} (h : reply.IsPrompted sentinel text)
    (h' : reply.IsPrompted sentinel text') :
    text = text' := by
  have hprint := h.print.symm.trans h'.print
  exact List.append_cancel_right (List.append_cancel_right hprint)

theorem IsPrompted.not_isQuiet
    {sentinel text : Text} {reply : Reply} (h : reply.IsPrompted sentinel text) :
    ¬ reply.IsQuiet sentinel := by
  intro hquiet
  apply hquiet
  rw [h.print]
  exact ⟨text, ['\n'], rfl⟩

end Reply

namespace Exchange

/-!
## Hearing text
-/

theorem hear_text
    {x : Exchange Interpreter} {sentinel front : Text} (hfeed : x.feed = .holding sentinel front)
    (text : Text) :
    x.hear ⟨encodeUtf8 text, false⟩ =
      { x with
        feed := .holding sentinel (Lines.cut '\n' (front ++ text)).2
        channel := x.channel ++
          (Lines.cut '\n' (front ++ text)).1.flatMap (Event.classify sentinel) } := by
  have hended : ∀ front, (Feed.holding sentinel front).ended = false := fun _ => rfl
  rw [hear, hfeed, Feed.push_holding]
  simp [hended]

theorem hear_last
    {x : Exchange Interpreter} {sentinel front : Text} (hfeed : x.feed = .holding sentinel front)
    (text : Text) :
    x.hear ⟨encodeUtf8 text, true⟩ =
      { x with
        feed := ⟨sentinel, [], true⟩
        channel := x.channel ++
          ((Lines.cut '\n' (front ++ text)).1.flatMap (Event.classify sentinel) ++
            ((if (Lines.cut '\n' (front ++ text)).2 = [] then []
              else Event.classify sentinel (Lines.cut '\n' (front ++ text)).2) ++ [.closed]))
        connected := false } := by
  simp [hear, hfeed, Feed.push_holding, Feed.finish_holding]

theorem prompt_notMem_hear
    {x : Exchange Interpreter} {sentinel text : Text} (hfeed : x.feed = .holding sentinel [])
    (hchannel : .prompt ∉ x.channel) (hquiet : ¬ sentinel <:+: text) (ends : Bool) :
    .prompt ∉ (x.hear ⟨encodeUtf8 text, ends⟩).channel := by
  rcases prompt_notMem_of_quiet hquiet with ⟨hlines, hlast⟩
  cases ends with
  | false =>
      rw [hear_text hfeed, List.nil_append, List.mem_append, not_or]
      exact ⟨hchannel, hlines⟩
  | true =>
      rw [hear_last hfeed, List.nil_append, List.mem_append, List.mem_append, List.mem_append,
        not_or, not_or, not_or]
      refine ⟨hchannel, hlines, ?_, by simp⟩
      split
      · exact List.not_mem_nil
      · exact hlast

theorem mem_of_collect
    {events : List Event} (h : (collect events).2.1 = .prompt) :
    .prompt ∈ events := by
  induction events with
  | nil => cases h
  | cons event events ih =>
      cases event with
      | line text => exact List.mem_cons_of_mem _ (ih h)
      | prompt => exact List.mem_cons_self
      | closed => cases h

theorem receive_of_notMem
    {x : Exchange Interpreter} (h : .prompt ∉ x.channel) (asked : Text) (patience : Nat) :
    ∃ y fault, x.receive asked patience = (y, .error fault) ∧
      y.peer = x.peer ∧ fault.isFatal = true := by
  unfold receive
  rcases hcollect : collect x.channel with ⟨lines, ending, rest⟩
  cases ending with
  | prompt => exact absurd (mem_of_collect (by rw [hcollect])) h
  | closed => exact ⟨_, .exited, rfl, rfl, rfl⟩
  | silence =>
      cases hconnected : x.connected with
      | true => exact ⟨_, .desync asked patience, rfl, rfl, rfl⟩
      | false => exact ⟨_, .exited, rfl, rfl, rfl⟩

/-!
## Commands in a dialogue
-/

/-- An exchange that is level with its interpreter: everything that was printed
has been looked at, and the interpreter waits for a command. -/
structure IsReady (sentinel : Text) (x : Exchange Interpreter) : Prop where
  peer : x.peer.IsListening
  feed : x.feed = .start sentinel
  channel : x.channel = []
  connected : x.connected = true
  opened : x.closed = false

/-- An exchange that cannot confuse answers: it is level with its interpreter, or
the interpreter has ended. -/
def IsLevel (sentinel : Text) (x : Exchange Interpreter) : Prop :=
  x.peer.stage = none ∨ x.IsReady sentinel

theorem perform_of_answer
    {x y z : Exchange Interpreter} {command : Command} {lines : List Text}
    (hopen : x.closed = false) (hline : command.isSingleLine = true)
    (hwrite : x.writeLine command.line = (y, none))
    (hreceive : y.receive command.line y.patience = (z, .ok lines)) :
    x.perform command = ⟨z, command.complete lines, none⟩ := by
  simp [perform, hopen, hline, hwrite, hreceive]

theorem perform_of_fault
    {x y z : Exchange Interpreter} {command : Command} {fault : Fault}
    (hopen : x.closed = false) (hline : command.isSingleLine = true)
    (hwrite : x.writeLine command.line = (y, none))
    (hreceive : y.receive command.line y.patience = (z, .error fault)) :
    x.perform command = ⟨z, none, some fault⟩ := by
  simp [perform, hopen, hline, hwrite, hreceive]

theorem writeLine_of_running
    {x : Exchange Interpreter} {stage : Stage} {line : Text} (hstage : x.peer.stage = some stage)
    (hline : '\n' ∉ line) :
    x.writeLine line =
      ({ x with peer := (x.peer.hearLine line).2 }.hear (x.peer.hearLine line).1, none) := by
  rw [writeLine, Interpreter.write_of_running hstage hline]

section Ready

variable {sentinel : Text} {x : Exchange Interpreter} {command : Command}

/-- The exchange in which an interpreter has heard a line, but not yet spoken. -/
def tell (x : Exchange Interpreter) (line : Text) : Exchange Interpreter :=
  { x with peer := (x.peer.hearLine line).2 }

theorem IsReady.writeLine
    (h : x.IsReady sentinel) (hsentinel : x.peer.script.sentinel = sentinel)
    (hline : command.isSingleLine = true) (hquit : command.line ≠ Interpreter.quit) :
    x.writeLine command.line =
      ((x.tell command.line).hear
        ⟨encodeUtf8
            ((Interpreter.replyTo x.peer.script x.peer.commandLines.length).print sentinel),
          (Interpreter.replyTo x.peer.script x.peer.commandLines.length).exits⟩, none) := by
  have hwrite := writeLine_of_running h.peer.stage ((Command.fitsOneLine_iff _).mp hline).1
  rw [h.peer.speech hquit, hsentinel] at hwrite
  exact hwrite

theorem IsReady.feed_tell
    (h : x.IsReady sentinel) (line : Text) :
    (x.tell line).feed = .holding sentinel [] := by
  rw [Feed.holding_nil]
  exact h.feed

/-- A prompted reply is the answer, and the exchange stays level. -/
theorem IsReady.perform_prompted
    (h : x.IsReady sentinel) (hmark : IsMark sentinel)
    (hsentinel : x.peer.script.sentinel = sentinel)
    (hline : command.isSingleLine = true) (hquit : command.line ≠ Interpreter.quit) {text : Text}
    (hreply : (Interpreter.replyTo x.peer.script x.peer.commandLines.length).IsPrompted
      sentinel text) :
    x.perform command = ⟨x.tell command.line, command.complete (answerLines text), none⟩ ∧
      (x.tell command.line).IsReady sentinel := by
  have hwrite := h.writeLine hsentinel hline hquit
  have hevents := events_of_prompted hmark hreply.first
  rw [hreply.print, hreply.goesOn, hear_text (h.feed_tell command.line), List.nil_append,
    hevents.1, hevents.2] at hwrite
  refine ⟨perform_of_answer h.opened hline hwrite ?_, ?_⟩
  · have hcollect := collect_lines (answerLines text) [.prompt]
    have hchannel : (x.tell command.line).channel = [] := h.channel
    rw [receive, hchannel, List.nil_append, hcollect]
    simp only [collect, List.append_nil, Feed.holding_nil]
    rw [← h.feed, ← h.channel]
    rfl
  · exact ⟨h.peer.hearLine hquit hreply.goesOn, h.feed, h.channel, h.connected, h.opened⟩

/-- A reply without a prompt is no answer, and ends in a fatal fault. -/
theorem IsReady.perform_quiet
    (h : x.IsReady sentinel) (hsentinel : x.peer.script.sentinel = sentinel)
    (hline : command.isSingleLine = true) (hquit : command.line ≠ Interpreter.quit)
    (hreply : (Interpreter.replyTo x.peer.script x.peer.commandLines.length).IsQuiet sentinel) :
    ∃ y fault, x.perform command = ⟨y, none, some fault⟩ ∧
      y.peer = (x.peer.hearLine command.line).2 ∧ fault.isFatal = true := by
  have hchannel : .prompt ∉ (x.tell command.line).channel := by
    rw [show (x.tell command.line).channel = [] from h.channel]
    exact List.not_mem_nil
  have hquiet := prompt_notMem_hear (h.feed_tell command.line) hchannel hreply
    (Interpreter.replyTo x.peer.script x.peer.commandLines.length).exits
  rcases receive_of_notMem hquiet command.line x.patience with
    ⟨y, fault, hreceive, hpeer, hfatal⟩
  have hwrite := h.writeLine hsentinel hline hquit
  exact ⟨y, fault, perform_of_fault h.opened hline hwrite hreceive, hpeer, hfatal⟩

end Ready

end Exchange
end GhciBridge
