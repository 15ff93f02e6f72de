import GhciBridge.Proofs.Exchange.Record
import GhciBridge.Proofs.Wire.Lines

/-!
# The input of a peer

A peer is handed one line for each command and each text that is written, in the
order in which they are run.  A line is a trimmed text and a line break, and no
other line break stands in it, so a peer that reads by lines finds as many as were
written.  What does not fit on one line leaves no trace.
-/

namespace GhciBridge

/-!
## What a peer was handed
-/

/-- A peer after it was handed texts one after the other. -/
def Peer.fed {π : Type} [Peer π] : π → List Text → π
  | peer, [] => peer
  | peer, text :: texts => fed (Peer.write peer text).2 texts

theorem Peer.fed_append
    {π : Type} [Peer π] (peer : π) (first second : List Text) :
    Peer.fed peer (first ++ second) = Peer.fed (Peer.fed peer first) second := by
  induction first generalizing peer with
  | nil => rfl
  | cons text first ih => exact ih _

/-- A peer together with all the texts it was handed. -/
structure Tap (π : Type) where
  peer : π
  inputs : List Text

namespace Tap

variable {π : Type}

def ofPeer (peer : π) : Tap π :=
  ⟨peer, []⟩

def alter (change : π → π) (tap : Tap π) : Tap π :=
  { tap with peer := change tap.peer }

variable [Peer π]

def write (tap : Tap π) (text : Text) : Option Speech × Tap π :=
  let (speech, peer) := Peer.write tap.peer text
  (speech, ⟨peer, tap.inputs ++ [text]⟩)

instance : Peer (Tap π) where
  write := write
  reap := alter Peer.reap

theorem inputs_fed
    (tap : Tap π) (texts : List Text) :
    (Peer.fed tap texts).inputs = tap.inputs ++ texts := by
  induction texts generalizing tap with
  | nil => exact (List.append_nil _).symm
  | cons text texts ih =>
      rw [Peer.fed, ih]
      show tap.inputs ++ [text] ++ texts = tap.inputs ++ text :: texts
      rw [List.append_assoc, List.singleton_append]

end Tap

/-!
## Lines
-/

/-- A text as it is written: trimmed, with a line break behind it. -/
def inputLine (text : Text) : Text :=
  Text.trim text ++ ['\n']

/-- Whether a text can be written as one line. -/
def fitsInput (text : Text) : Bool :=
  Command.fitsOneLine (Text.trim text)

theorem Command.fitsOneLine_iff
    (text : Text) :
    fitsOneLine text = true ↔ '\n' ∉ text ∧ '\r' ∉ text := by
  simp only [fitsOneLine, Bool.not_eq_true', List.any_eq_false, Bool.or_eq_true,
    beq_iff_eq, not_or]
  constructor
  · intro h
    exact ⟨fun hmem => (h _ hmem).1 rfl, fun hmem => (h _ hmem).2 rfl⟩
  · rintro ⟨hbreak, hreturn⟩ c hc
    constructor
    · rintro rfl
      exact hbreak hc
    · rintro rfl
      exact hreturn hc

theorem Command.fitsOneLine_eq_false
    {text : Text} (h : '\n' ∈ text ∨ '\r' ∈ text) :
    fitsOneLine text = false := by
  rw [← Bool.not_eq_true, fitsOneLine_iff]
  rintro ⟨hbreak, hreturn⟩
  rcases h with hmem | hmem
  · exact hbreak hmem
  · exact hreturn hmem

/-- Reading by lines undoes writing by lines. -/
theorem Lines.cut_inputLines
    {texts : List Text} (h : ∀ text ∈ texts, '\n' ∉ Text.trim text) :
    cut '\n' (texts.map inputLine).flatten = (texts.map inputLine, []) := by
  induction texts with
  | nil => rfl
  | cons text texts ih =>
      have hrest := ih fun other hother => h other (List.mem_cons_of_mem text hother)
      rw [List.map_cons, List.flatten_cons, inputLine, List.append_assoc, List.singleton_append,
        cut_terminated (h text List.mem_cons_self), hrest]

namespace Exchange

variable {π : Type} [Peer π]

/-!
## One command
-/

/-- Whether a command is written when its turn comes. -/
def writes (x : Exchange π) (command : Command) : Bool :=
  !x.closed && command.isSingleLine

theorem peer_writeLine
    (x : Exchange π) (line : Text) :
    (x.writeLine line).1.peer = (Peer.write x.peer (line ++ ['\n'])).2 := by
  unfold writeLine
  rcases Peer.write x.peer (line ++ ['\n']) with ⟨speech, peer⟩
  cases speech with
  | none => rfl
  | some speech => rfl

theorem peer_sendLine
    (x : Exchange π) (text : Text) :
    (x.sendLine text).1.peer =
      Peer.fed x.peer (([text].filter fitsInput).map inputLine) := by
  cases hfits : Command.fitsOneLine (Text.trim text) with
  | false => simp [sendLine, fitsInput, hfits, Peer.fed]
  | true => simp [sendLine, fitsInput, hfits, Peer.fed, peer_writeLine, inputLine]

theorem closed_writeLine
    (x : Exchange π) (line : Text) :
    (x.writeLine line).1.closed = x.closed := by
  unfold writeLine
  rcases Peer.write x.peer (line ++ ['\n']) with ⟨speech, peer⟩
  cases speech with
  | none => rfl
  | some speech => rfl

theorem peer_perform
    (x : Exchange π) (command : Command) :
    (x.perform command).exchange.peer =
      Peer.fed x.peer (([command].filter x.writes).map fun c => inputLine c.payload) := by
  have hends := ends_perform x command
  have hwritten : x.closed = false → command.isSingleLine = true →
      Peer.fed x.peer (([command].filter x.writes).map fun c => inputLine c.payload) =
        (x.writeLine command.line).1.peer := by
    intro hopen hline
    simp [writes, hopen, hline, Peer.fed, peer_writeLine, inputLine, Command.line]
  generalize x.perform command = outcome at hends
  cases hends with
  | closed hclosed => simp [writes, hclosed, Peer.fed]
  | refused hopen hlines => simp [writes, hlines, Peer.fed]
  | unwritten hopen hline hwrite => rw [hwritten hopen hline, hwrite]
  | @unanswered y z fault hopen hline hwrite hreceive =>
      have hpeer := peer_receive y command.line y.patience
      rw [hreceive] at hpeer
      rw [hwritten hopen hline, hwrite]
      exact hpeer
  | @answered y z lines hopen hline hwrite hreceive =>
      have hpeer := peer_receive y command.line y.patience
      rw [hreceive] at hpeer
      rw [hwritten hopen hline, hwrite]
      exact hpeer

/-- An execution without a fault begins and ends with open output. -/
theorem closed_of_perform
    {x : Exchange π} {command : Command} (h : (x.perform command).fault = none) :
    x.closed = false ∧ (x.perform command).exchange.closed = false := by
  have hends := ends_perform x command
  generalize x.perform command = outcome at hends h
  cases hends with
  | closed => cases h
  | refused => cases h
  | unwritten => cases h
  | unanswered => cases h
  | @answered y z lines hopen hline hwrite hreceive =>
      have hclosed := closed_writeLine x command.line
      rw [hwrite] at hclosed
      exact ⟨hopen, (closed_of_receive hreceive).trans (hclosed.trans hopen)⟩

/-- An execution without a fault has written its command. -/
theorem writes_of_perform
    {x : Exchange π} {command : Command} (h : (x.perform command).fault = none) :
    x.writes command = true := by
  have hends := ends_perform x command
  generalize x.perform command = outcome at hends h
  cases hends with
  | answered hopen hline =>
      rw [writes, hopen, hline]
      rfl
  | _ => cases h

/-!
## A queue of commands
-/

/-- The commands of a chain of executions. -/
def reached (submissions : List Submission) (x : Exchange π) : List Command :=
  (executions submissions x).map fun execution => execution.submission.command

theorem peer_runAll
    (submissions : List Submission) (x : Exchange π) :
    (runAll submissions x).exchange.peer =
      Peer.fed x.peer
        (((reached submissions x).filter x.writes).map fun c => inputLine c.payload) := by
  induction submissions generalizing x with
  | nil => rfl
  | cons submission waiting ih =>
      have hpeer := peer_perform x submission.command
      cases hfault : (x.perform submission.command).fault with
      | some fault =>
          rw [reached, executions_cons_of_fault hfault, runAll, List.map_singleton, ← hpeer]
          simp only [hfault]
          split
          · rfl
          · rfl
      | none =>
          rcases closed_of_perform hfault with ⟨hopen, hopen'⟩
          -- the output stays open along the chain, so one and the same test decides
          have hwrites : (x.perform submission.command).exchange.writes = x.writes := by
            funext command
            rw [writes, writes, hopen, hopen']
          have hrest := ih (x.perform submission.command).exchange
          rw [hpeer, hwrites, ← Peer.fed_append, ← List.map_append, ← List.filter_append] at hrest
          rw [reached, executions_cons_of_none hfault, runAll]
          simp only [hfault]
          exact hrest

end Exchange
end GhciBridge
