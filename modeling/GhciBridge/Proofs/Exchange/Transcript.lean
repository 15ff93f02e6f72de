import GhciBridge.Proofs.Exchange.Input

/-!
# The transcript of an exchange

Over a whole run the peer is handed one line for each command and each text that
is written, in the order in which they are run, and nothing else.  A command or a
text of several lines is handed over in no part, and the exchange goes on as if it
had never been submitted.
-/

namespace GhciBridge
namespace Exchange

variable {π : Type}

/-!
## Commands that leave no trace
-/

def withQueue (x : Exchange π) (queue : List Submission) : Exchange π :=
  { x with queue := queue }

theorem receive_withQueue
    (x : Exchange π) (queue : List Submission) (asked : Text) (patience : Nat) :
    (x.withQueue queue).receive asked patience =
      ((x.receive asked patience).1.withQueue queue, (x.receive asked patience).2) := by
  have hchannel : (x.withQueue queue).channel = x.channel := rfl
  unfold receive
  rw [hchannel]
  rcases collect x.channel with ⟨lines, ending, rest⟩
  cases ending with
  | prompt => rfl
  | closed => rfl
  | silence =>
      cases hconnected : x.connected with
      | false => simp [withQueue, hconnected]
      | true => simp [withQueue, hconnected]

variable [Peer π]

theorem writeLine_withQueue
    (x : Exchange π) (queue : List Submission) (line : Text) :
    (x.withQueue queue).writeLine line =
      ((x.writeLine line).1.withQueue queue, (x.writeLine line).2) := by
  have hpeer : (x.withQueue queue).peer = x.peer := rfl
  unfold writeLine
  rw [hpeer]
  rcases Peer.write x.peer (line ++ ['\n']) with ⟨speech, peer⟩
  cases speech with
  | none => rfl
  | some speech => rfl

/-- What a command comes to does not depend on the queue. -/
theorem perform_withQueue
    (x : Exchange π) (queue : List Submission) (command : Command) :
    (x.withQueue queue).perform command =
      { x.perform command with exchange := (x.perform command).exchange.withQueue queue } := by
  have hends := ends_perform x command
  generalize hperform : x.perform command = outcome at hends
  cases hends with
  | closed hclosed =>
      have hclosed' : (x.withQueue queue).closed = true := hclosed
      simp [perform, hclosed']
  | refused hopen hlines =>
      have hopen' : (x.withQueue queue).closed = false := hopen
      simp [perform, hopen', hlines]
  | @unwritten y fault hopen hline hwrite =>
      have hopen' : (x.withQueue queue).closed = false := hopen
      have hwrite' := writeLine_withQueue x queue command.line
      rw [hwrite] at hwrite'
      simp [perform, hopen', hline, hwrite']
  | @unanswered y z fault hopen hline hwrite hreceive =>
      have hopen' : (x.withQueue queue).closed = false := hopen
      have hwrite' := writeLine_withQueue x queue command.line
      have hreceive' := receive_withQueue y queue command.line y.patience
      rw [hwrite] at hwrite'
      rw [hreceive] at hreceive'
      have hpatience : (y.withQueue queue).patience = y.patience := rfl
      simp [perform, hopen', hline, hwrite', hpatience, hreceive']
  | @answered y z lines hopen hline hwrite hreceive =>
      have hopen' : (x.withQueue queue).closed = false := hopen
      have hwrite' := writeLine_withQueue x queue command.line
      have hreceive' := receive_withQueue y queue command.line y.patience
      rw [hwrite] at hwrite'
      rw [hreceive] at hreceive'
      have hpatience : (y.withQueue queue).patience = y.patience := rfl
      simp [perform, hopen', hline, hwrite', hpatience, hreceive']

theorem runAll_withQueue
    (submissions queue : List Submission) (x : Exchange π) :
    runAll submissions (x.withQueue queue) = runAll submissions x := by
  induction submissions generalizing x with
  | nil => rfl
  | cons submission waiting ih =>
      rw [runAll, runAll, perform_withQueue]
      cases (x.perform submission.command).fault with
      | none => simp only [ih]
      | some fault => rfl

/-- A run that goes through may be made in two parts. -/
theorem runAll_append
    {front : List Submission} {x : Exchange π} (h : (runAll front x).fault = none)
    (behind : List Submission) :
    runAll (front ++ behind) x =
      { runAll behind (runAll front x).exchange with
        retired := (runAll front x).retired ++ (runAll behind (runAll front x).exchange).retired } := by
  induction front generalizing x with
  | nil =>
      have hnone := runAll_withQueue behind [] x
      show runAll behind x = runAll behind (x.withQueue [])
      exact hnone.symm
  | cons submission front ih =>
      rw [runAll] at h
      rw [List.cons_append, runAll, runAll]
      cases hfault : (x.perform submission.command).fault with
      | none =>
          simp only [hfault] at h ⊢
          rw [ih h]
          rfl
      | some fault =>
          simp only [hfault] at h
          split at h
          · cases h
          · cases h

/-- A submission that an exchange refuses without a trace. -/
structure Ignores (x : Exchange π) (refused : Submission) : Prop where
  executed :
    x.execute refused =
      ⟨x, [.unanswered refused],
        some (if x.closed then .exited else .multiline refused.command.line)⟩
  /-- If the commands in front of it in the queue are answered, the one run ends
  there and the next run goes on behind it.  Without it there would have been one
  run that does the same. -/
  queued :
    ∀ front behind, x.queue = front ++ refused :: behind → x.closed = false →
      (x.withQueue front).runPending.fault = none →
        x.runPending =
            ⟨(x.withQueue front).runPending.exchange.withQueue behind,
              (x.withQueue front).runPending.retired ++ [.unanswered refused],
              some (.multiline refused.command.line)⟩ ∧
          (x.withQueue (front ++ behind)).runPending =
            { x.runPending.exchange.runPending with
              retired := (x.withQueue front).runPending.retired ++
                x.runPending.exchange.runPending.retired }

theorem perform_of_several_lines
    (x : Exchange π) {command : Command} (h : command.isSingleLine = false) :
    x.perform command =
      ⟨x, none, some (if x.closed then .exited else .multiline command.line)⟩ := by
  cases hclosed : x.closed with
  | true => simp [perform, hclosed]
  | false => simp [perform, hclosed, h]

theorem closed_runAll
    {submissions : List Submission} {x : Exchange π} (h : (runAll submissions x).fault = none) :
    (runAll submissions x).exchange.closed = x.closed := by
  induction submissions generalizing x with
  | nil => rfl
  | cons submission waiting ih =>
      rw [runAll] at h ⊢
      cases hfault : (x.perform submission.command).fault with
      | none =>
          simp only [hfault] at h ⊢
          rcases closed_of_perform hfault with ⟨hopen, hopen'⟩
          exact (ih h).trans (hopen'.trans hopen.symm)
      | some fault =>
          simp only [hfault] at h
          split at h
          · cases h
          · cases h

theorem ignores
    (x : Exchange π) {refused : Submission} (h : refused.command.isSingleLine = false) :
    x.Ignores refused := by
  constructor
  · rw [execute, perform_of_several_lines x h]
    rfl
  · intro front behind hqueue hopen hfront
    have hfront' : (runAll front x).fault = none := by
      rw [← runAll_withQueue front front]
      exact hfront
    have hbefore : (x.withQueue front).runPending = runAll front x := runAll_withQueue _ _ _
    have hopen' : (runAll front x).exchange.closed = false := (closed_runAll hfront').trans hopen
    have hrun : x.runPending =
        ⟨(runAll front x).exchange.withQueue behind,
          (runAll front x).retired ++ [.unanswered refused],
          some (.multiline refused.command.line)⟩ := by
      rw [runPending, hqueue, runAll_append hfront', runAll, perform_of_several_lines _ h, hopen']
      rfl
    have hagain : x.runPending.exchange.runPending = runAll behind (runAll front x).exchange := by
      rw [hrun]
      exact runAll_withQueue _ _ _
    have hwithout : (x.withQueue (front ++ behind)).runPending = runAll (front ++ behind) x :=
      runAll_withQueue _ _ _
    rw [hbefore]
    constructor
    · exact hrun
    · rw [hwithout, hagain]
      exact runAll_append hfront' behind

/-!
## Whole runs
-/

namespace Operation

/-- The same operation on a peer whose input is kept. -/
def tapped : Operation π → Operation (Tap π)
  | .feed events => .feed events
  | .drop => .drop
  | .alter change => .alter (Tap.alter change)
  | .execute command purpose => .execute command purpose
  | .enqueue command purpose => .enqueue command purpose
  | .runPending => .runPending
  | .sendLine text => .sendLine text
  | .waitForPrompt patience => .waitForPrompt patience

end Operation

namespace Record

/-- The payloads of the commands that an operation runs and writes, or the text
that it writes. -/
def written (r : Record π) : Operation π → List Text
  | .execute command _ => ([command].filter r.exchange.writes).map Command.payload
  | .runPending =>
      ((reached r.exchange.queue r.exchange).filter r.exchange.writes).map Command.payload
  | .sendLine text => [text].filter fitsInput
  | _ => []

/-- All that is written in a run. -/
def transcript (r : Record π) : List (Operation π) → List Text
  | [] => []
  | operation :: operations => r.written operation ++ (r.apply operation).1.transcript operations

theorem fitsInput_of_mem_written
    {r : Record π} {operation : Operation π} {text : Text} (h : text ∈ r.written operation) :
    fitsInput text = true := by
  have hcommand : ∀ commands : List Command,
      text ∈ (commands.filter r.exchange.writes).map Command.payload →
        fitsInput text = true := by
    intro commands hmem
    rcases List.mem_map.mp hmem with ⟨command, hkept, rfl⟩
    have hwrites := (List.mem_filter.mp hkept).2
    rw [writes, Bool.and_eq_true] at hwrites
    exact hwrites.2
  cases operation with
  | execute command purpose => exact hcommand _ h
  | runPending => exact hcommand _ h
  | sendLine text' =>
      have hmem := List.mem_filter.mp h
      exact hmem.2
  | _ => cases h

theorem fitsInput_of_mem_transcript
    {r : Record π} {operations : List (Operation π)} {text : Text}
    (h : text ∈ r.transcript operations) :
    fitsInput text = true := by
  induction operations generalizing r with
  | nil => cases h
  | cons operation operations ih =>
      rcases List.mem_append.mp h with hmem | hmem
      · exact fitsInput_of_mem_written hmem
      · exact ih hmem

theorem inputs_apply
    (r : Record (Tap π)) (operation : Operation π) :
    (r.apply operation.tapped).1.exchange.peer.inputs =
      r.exchange.peer.inputs ++ (r.written operation.tapped).map inputLine := by
  cases operation with
  | feed events =>
      have hpeer : (r.exchange.offer events).peer = r.exchange.peer := by
        unfold offer
        split
        · rfl
        · rfl
      show (r.exchange.offer events).peer.inputs = r.exchange.peer.inputs ++ []
      rw [hpeer, List.append_nil]
  | drop => exact (List.append_nil _).symm
  | alter change => exact (List.append_nil _).symm
  | execute command purpose =>
      have hpeer := peer_perform r.exchange command
      show (r.exchange.perform command).exchange.peer.inputs = _
      rw [hpeer, Tap.inputs_fed, Operation.tapped, written, List.map_map]
      rfl
  | enqueue command purpose => exact (List.append_nil _).symm
  | runPending =>
      have hpeer := peer_runAll r.exchange.queue r.exchange
      show (runAll r.exchange.queue r.exchange).exchange.peer.inputs = _
      rw [hpeer, Tap.inputs_fed, Operation.tapped, written, List.map_map]
      rfl
  | sendLine text =>
      have hpeer := peer_sendLine r.exchange text
      show (r.exchange.sendLine text).1.peer.inputs = _
      rw [hpeer, Tap.inputs_fed]
      rfl
  | waitForPrompt patience =>
      have hpeer := peer_receive r.exchange startup patience
      show _ = r.exchange.peer.inputs ++ []
      rw [List.append_nil, Operation.tapped, apply]
      rcases hwait : r.exchange.waitForPrompt patience with ⟨x, lines⟩
      rw [← waitForPrompt, hwait] at hpeer
      cases lines with
      | ok lines => exact congrArg Tap.inputs hpeer
      | error fault => exact congrArg Tap.inputs hpeer

theorem inputs_run
    (r : Record (Tap π)) (operations : List (Operation π)) :
    (r.run (operations.map Operation.tapped)).exchange.peer.inputs =
      r.exchange.peer.inputs ++
        (r.transcript (operations.map Operation.tapped)).map inputLine := by
  induction operations generalizing r with
  | nil => exact (List.append_nil _).symm
  | cons operation operations ih =>
      rw [List.map_cons, run, ih, inputs_apply, transcript, List.map_append, List.append_assoc]

/-- Whatever is run over an exchange, all that its peer is handed is one line for
each command and each text that is written, in their order: the trimmed payload or
text and a line break, with no other line break in it.  What does not fit on one
line is handed over in no part and changes nothing. -/
theorem one_line_for_each
    (peer : π) (sentinel : Text) (patience : Nat) (operations : List (Operation π)) :
    let start := Record.start (Tap.ofPeer peer) sentinel patience
    let transcript := start.transcript (operations.map Operation.tapped)
    let r := start.run (operations.map Operation.tapped)
    r.exchange.peer.inputs = transcript.map (fun text => Text.trim text ++ ['\n']) ∧
      (∀ text ∈ transcript, '\n' ∉ Text.trim text ∧ '\r' ∉ Text.trim text) ∧
      Lines.cut '\n' r.exchange.peer.inputs.flatten = (r.exchange.peer.inputs, []) ∧
      (∀ refused : Submission,
        '\n' ∈ Text.trim refused.command.payload ∨ '\r' ∈ Text.trim refused.command.payload →
          r.exchange.Ignores refused) ∧
      ∀ text, '\n' ∈ Text.trim text ∨ '\r' ∈ Text.trim text →
        r.exchange.sendLine text = (r.exchange, some (.multiline (Text.trim text))) := by
  intro start transcript r
  have hinputs : r.exchange.peer.inputs = transcript.map inputLine :=
    inputs_run start operations
  have hlines : ∀ text ∈ transcript, '\n' ∉ Text.trim text ∧ '\r' ∉ Text.trim text := by
    intro text hmem
    exact (Command.fitsOneLine_iff _).mp (fitsInput_of_mem_transcript hmem)
  refine ⟨hinputs, hlines, ?_, ?_, ?_⟩
  · rw [hinputs]
    exact Lines.cut_inputLines fun text hmem => (hlines text hmem).1
  · intro refused hbreak
    exact r.exchange.ignores (Command.fitsOneLine_eq_false hbreak)
  · intro text hbreak
    rw [sendLine, Command.fitsOneLine_eq_false hbreak]
    rfl

end Record
end Exchange
end GhciBridge
