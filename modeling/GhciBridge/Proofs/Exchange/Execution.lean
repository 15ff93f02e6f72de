import GhciBridge.Exchange.Basic

/-!
# Executions

An execution is one command on its way through an exchange, from its refusal or
its writing to its end.  Running a queue is a chain of executions: each begins
where the one before it ended, and the first fault ends the chain.

No execution touches the queue, so what a run does to the queue can be read off
the length of its chain.
-/

namespace GhciBridge
namespace Exchange

variable {π : Type}

/-!
## The queue under single steps
-/

@[simp] theorem queue_offer
    (x : Exchange π) (events : List Event) :
    (x.offer events).queue = x.queue := by
  unfold offer
  split
  · rfl
  · rfl

@[simp] theorem queue_disconnect
    (x : Exchange π) :
    x.disconnect.queue = x.queue := rfl

@[simp] theorem queue_hear
    (x : Exchange π) (speech : Speech) :
    (x.hear speech).queue = x.queue := rfl

@[simp] theorem queue_receive
    (x : Exchange π) (asked : Text) (patience : Nat) :
    (x.receive asked patience).1.queue = x.queue := by
  unfold receive
  rcases collect x.channel with ⟨lines, ending, rest⟩
  cases ending with
  | prompt => rfl
  | closed => rfl
  | silence =>
      cases hconnected : x.connected with
      | false => simp
      | true => simp

theorem peer_receive
    (x : Exchange π) (asked : Text) (patience : Nat) :
    (x.receive asked patience).1.peer = x.peer := by
  unfold receive
  rcases collect x.channel with ⟨lines, ending, rest⟩
  cases ending with
  | prompt => rfl
  | closed => rfl
  | silence =>
      cases hconnected : x.connected with
      | false => simp
      | true => simp

theorem closed_of_receive
    {x y : Exchange π} {asked : Text} {patience : Nat} {lines : List Text}
    (h : x.receive asked patience = (y, .ok lines)) :
    y.closed = x.closed := by
  rw [receive] at h
  split at h
  · cases h
    rfl
  · cases h
  · split at h
    · cases h
    · cases h

variable [Peer π]

@[simp] theorem queue_writeLine
    (x : Exchange π) (line : Text) :
    (x.writeLine line).1.queue = x.queue := by
  unfold writeLine
  rcases Peer.write x.peer (line ++ ['\n']) with ⟨speech, peer⟩
  cases speech with
  | none => rfl
  | some speech => rfl

@[simp] theorem queue_sendLine
    (x : Exchange π) (text : Text) :
    (x.sendLine text).1.queue = x.queue := by
  rw [sendLine]
  split
  · exact queue_writeLine x _
  · rfl

/-!
## The ends of an execution
-/

/-- The ways in which an execution ends. -/
inductive Ends (x : Exchange π) (command : Command) : Outcome π → Prop where
  /-- The output had ended before. -/
  | closed
      (hclosed : x.closed = true) :
      Ends x command ⟨x, none, some .exited⟩
  /-- The command does not fit on one line. -/
  | refused
      (hopen : x.closed = false)
      (hlines : command.isSingleLine = false) :
      Ends x command ⟨x, none, some (.multiline command.line)⟩
  | unwritten {y : Exchange π} {fault : Fault}
      (hopen : x.closed = false)
      (hline : command.isSingleLine = true)
      (hwrite : x.writeLine command.line = (y, some fault)) :
      Ends x command ⟨y, none, some fault⟩
  | unanswered {y z : Exchange π} {fault : Fault}
      (hopen : x.closed = false)
      (hline : command.isSingleLine = true)
      (hwrite : x.writeLine command.line = (y, none))
      (hreceive : y.receive command.line y.patience = (z, .error fault)) :
      Ends x command ⟨z, none, some fault⟩
  | answered {y z : Exchange π} {lines : List Text}
      (hopen : x.closed = false)
      (hline : command.isSingleLine = true)
      (hwrite : x.writeLine command.line = (y, none))
      (hreceive : y.receive command.line y.patience = (z, .ok lines)) :
      Ends x command ⟨z, command.complete lines, none⟩

theorem ends_perform
    (x : Exchange π) (command : Command) :
    Ends x command (x.perform command) := by
  unfold perform
  cases hclosed : x.closed with
  | true => exact .closed hclosed
  | false =>
      cases hline : command.isSingleLine with
      | false => exact .refused hclosed hline
      | true =>
          rcases hwrite : x.writeLine command.line with ⟨y, fault⟩
          cases fault with
          | some fault => exact .unwritten hclosed hline hwrite
          | none =>
              rcases hreceive : y.receive command.line y.patience with ⟨z, lines⟩
              cases lines with
              | error fault =>
                  simp only [hreceive]
                  exact .unanswered hclosed hline hwrite hreceive
              | ok lines =>
                  simp only [hreceive]
                  exact .answered hclosed hline hwrite hreceive

theorem fault_writeLine
    {x : Exchange π} {line : Text} {fault : Fault} (h : (x.writeLine line).2 = some fault) :
    fault = .io := by
  rw [writeLine] at h
  split at h
  · cases h
  · cases h
    rfl

omit [Peer π] in
theorem fault_receive
    {x y : Exchange π} {asked : Text} {patience : Nat} {fault : Fault}
    (h : x.receive asked patience = (y, .error fault)) :
    fault = .exited ∨ fault = .desync asked patience := by
  rw [receive] at h
  split at h
  · cases h
  · cases h
    exact .inl rfl
  · split at h
    · cases h
      exact .inr rfl
    · cases h
      exact .inl rfl

/-- The faults in which an execution can end. -/
theorem fault_perform
    {x : Exchange π} {command : Command} {fault : Fault}
    (h : (x.perform command).fault = some fault) :
    fault = .exited ∨ fault = .io ∨ fault = .multiline command.line ∨
      ∃ waited, fault = .desync command.line waited := by
  have hends := ends_perform x command
  generalize x.perform command = outcome at hends h
  cases hends with
  | closed =>
      cases h
      exact .inl rfl
  | refused =>
      cases h
      exact .inr (.inr (.inl rfl))
  | unwritten hopen hline hwrite =>
      cases h
      exact .inr (.inl (fault_writeLine (congrArg Prod.snd hwrite)))
  | unanswered hopen hline hwrite hreceive =>
      cases h
      rcases fault_receive hreceive with rfl | rfl
      · exact .inl rfl
      · exact .inr (.inr (.inr ⟨_, rfl⟩))
  | answered => cases h

/-- A command is written, and lines come with a prompt behind them. -/
structure Answered (x : Exchange π) (command : Command) (lines : List Text) : Prop where
  opened : x.closed = false
  single : command.isSingleLine = true
  lines :
    ∃ y z, x.writeLine command.line = (y, none) ∧
      y.receive command.line y.patience = (z, .ok lines)

theorem Answered.perform
    {x : Exchange π} {command : Command} {lines : List Text} (h : x.Answered command lines) :
    ∃ z, x.perform command = ⟨z, command.complete lines, none⟩ := by
  rcases h.lines with ⟨y, z, hwrite, hreceive⟩
  refine ⟨z, ?_⟩
  simp [Exchange.perform, h.opened, h.single, hwrite, hreceive]

theorem Answered.unique
    {x : Exchange π} {command : Command} {lines others : List Text}
    (h : x.Answered command lines) (hother : x.Answered command others) :
    lines = others := by
  rcases h.lines with ⟨y, z, hwrite, hreceive⟩
  rcases hother.lines with ⟨y', z', hwrite', hreceive'⟩
  rw [hwrite, Prod.mk.injEq] at hwrite'
  rw [← hwrite'.1, hreceive, Prod.mk.injEq, Except.ok.injEq] at hreceive'
  exact hreceive'.2

theorem exists_answered
    {x : Exchange π} {command : Command} (h : (x.perform command).fault = none) :
    ∃ lines, x.Answered command lines ∧
      (x.perform command).answer = command.complete lines := by
  have hends := ends_perform x command
  generalize x.perform command = outcome at hends h
  cases hends with
  | answered hopen hline hwrite hreceive =>
      exact ⟨_, ⟨hopen, hline, _, _, hwrite, hreceive⟩, rfl⟩
  | _ => cases h

@[simp] theorem queue_perform
    (x : Exchange π) (command : Command) :
    (x.perform command).exchange.queue = x.queue := by
  have hends := ends_perform x command
  generalize x.perform command = outcome at hends
  cases hends with
  | closed => rfl
  | refused => rfl
  | unwritten hopen hline hwrite =>
      have hqueue := queue_writeLine x command.line
      rw [hwrite] at hqueue
      exact hqueue
  | @unanswered y z fault hopen hline hwrite hreceive =>
      have hqueue := queue_writeLine x command.line
      have hqueue' := queue_receive y command.line y.patience
      rw [hwrite] at hqueue
      rw [hreceive] at hqueue'
      exact hqueue'.trans hqueue
  | @answered y z lines hopen hline hwrite hreceive =>
      have hqueue := queue_writeLine x command.line
      have hqueue' := queue_receive y command.line y.patience
      rw [hwrite] at hqueue
      rw [hreceive] at hqueue'
      exact hqueue'.trans hqueue

theorem answer_of_fault
    {x : Exchange π} {command : Command}
    (h : (x.perform command).fault ≠ none) :
    (x.perform command).answer = none := by
  have hends := ends_perform x command
  generalize x.perform command = outcome at hends h
  cases hends with
  | closed => rfl
  | refused => rfl
  | unwritten => rfl
  | unanswered => rfl
  | answered => exact absurd rfl h

/-!
## Chains of executions
-/

/-- A submitted command and how its execution ended. -/
structure Execution (π : Type) where
  submission : Submission
  outcome : Outcome π

def Execution.retirement (execution : Execution π) : Retirement :=
  ⟨execution.submission, execution.outcome.answer⟩

/-- The executions of commands one after the other up to the first fault. -/
def executions : List Submission → Exchange π → List (Execution π)
  | [], _ => []
  | submission :: waiting, x =>
      let outcome := x.perform submission.command
      ⟨submission, outcome⟩ ::
        match outcome.fault with
        | none => executions waiting outcome.exchange
        | some _ => []

/-- The commands that a chain does not get to. -/
def unreached (submissions : List Submission) (x : Exchange π) : List Submission :=
  submissions.drop (executions submissions x).length

theorem executions_cons_of_fault
    {x : Exchange π} {submission : Submission} {fault : Fault}
    (h : (x.perform submission.command).fault = some fault) (waiting : List Submission) :
    executions (submission :: waiting) x = [⟨submission, x.perform submission.command⟩] := by
  rw [executions, h]

theorem executions_cons_of_none
    {x : Exchange π} {submission : Submission}
    (h : (x.perform submission.command).fault = none) (waiting : List Submission) :
    executions (submission :: waiting) x =
      ⟨submission, x.perform submission.command⟩ ::
        executions waiting (x.perform submission.command).exchange := by
  rw [executions, h]

theorem map_submission_executions_append
    (submissions : List Submission) (x : Exchange π) :
    (executions submissions x).map Execution.submission ++ unreached submissions x =
      submissions := by
  induction submissions generalizing x with
  | nil => rfl
  | cons submission waiting ih =>
      cases hfault : (x.perform submission.command).fault with
      | some fault => simp [unreached, executions_cons_of_fault hfault]
      | none =>
          have hrest := ih (x.perform submission.command).exchange
          rw [unreached] at hrest
          simp [unreached, executions_cons_of_none hfault, hrest]

theorem answer_of_mem_executions
    {submissions : List Submission} {x : Exchange π} {execution : Execution π}
    (hmem : execution ∈ executions submissions x) (hfault : execution.outcome.fault ≠ none) :
    execution.outcome.answer = none := by
  induction submissions generalizing x with
  | nil => simp [executions] at hmem
  | cons submission waiting ih =>
      rw [executions, List.mem_cons] at hmem
      rcases hmem with rfl | hmem
      · exact answer_of_fault hfault
      · cases hfirst : (x.perform submission.command).fault with
        | some fault => simp [hfirst] at hmem
        | none =>
            rw [hfirst] at hmem
            exact ih hmem

/-!
## The run of a queue
-/

theorem runAll_fault
    (submissions : List Submission) (x : Exchange π) :
    (runAll submissions x).fault =
      (executions submissions x).getLast?.bind fun execution => execution.outcome.fault := by
  induction submissions generalizing x with
  | nil => rfl
  | cons submission waiting ih =>
      cases hfault : (x.perform submission.command).fault with
      | some fault =>
          rw [executions_cons_of_fault hfault, runAll]
          simp only [hfault]
          split
          · simp [hfault]
          · simp [hfault]
      | none =>
          rw [executions_cons_of_none hfault, runAll]
          simp only [hfault]
          rw [ih]
          cases hrest : executions waiting (x.perform submission.command).exchange with
          | nil => simp [hfault]
          | cons next rest => simp

theorem exists_failing
    {submissions : List Submission} {x : Exchange π} {fault : Fault}
    (h : (runAll submissions x).fault = some fault) :
    ∃ front failing,
      executions submissions x = front ++ [failing] ∧ failing.outcome.fault = some fault ∧
        ∀ execution ∈ front, execution.outcome.fault = none := by
  induction submissions generalizing x with
  | nil => cases h
  | cons submission waiting ih =>
      rw [runAll] at h
      cases hfault : (x.perform submission.command).fault with
      | some first =>
          have hsame : some first = some fault := by
            simp only [hfault] at h
            split at h
            · exact h
            · exact h
          refine ⟨[], ⟨submission, x.perform submission.command⟩, ?_, hfault.trans hsame, ?_⟩
          · exact executions_cons_of_fault hfault waiting
          · intro execution hmem
            cases hmem
      | none =>
          simp only [hfault] at h
          rcases ih h with ⟨front, failing, hsplit, hfailing, hfront⟩
          refine ⟨⟨submission, x.perform submission.command⟩ :: front, failing, ?_, hfailing, ?_⟩
          · rw [executions_cons_of_none hfault, hsplit]
            rfl
          · intro execution hmem
            rcases List.mem_cons.mp hmem with rfl | hmem
            · exact hfault
            · exact hfront execution hmem

theorem unreached_of_runAll
    {submissions : List Submission} {x : Exchange π}
    (h : (runAll submissions x).fault = none) :
    unreached submissions x = [] := by
  induction submissions generalizing x with
  | nil => rfl
  | cons submission waiting ih =>
      rw [runAll] at h
      cases hfault : (x.perform submission.command).fault with
      | some fault =>
          simp only [hfault] at h
          split at h
          · cases h
          · cases h
      | none =>
          simp only [hfault] at h
          have hrest := ih h
          rw [unreached] at hrest ⊢
          rw [executions_cons_of_none hfault, List.length_cons, List.drop_succ_cons]
          exact hrest

def Run.isFatal (run : Run π) : Bool :=
  run.fault.any Fault.isFatal

/-- A run retires the commands of its chain with their answers, and after a fatal
fault the others without one. -/
theorem runAll_retired
    (submissions : List Submission) (x : Exchange π) :
    (runAll submissions x).retired =
      (executions submissions x).map Execution.retirement ++
        if (runAll submissions x).isFatal then
          (unreached submissions x).map .unanswered
        else
          [] := by
  induction submissions generalizing x with
  | nil => rfl
  | cons submission waiting ih =>
      cases hfault : (x.perform submission.command).fault with
      | some fault =>
          rw [unreached, executions_cons_of_fault hfault, runAll]
          simp only [hfault]
          cases hfatal : fault.isFatal with
          | true => simp [Run.isFatal, hfatal, Execution.retirement]
          | false => simp [Run.isFatal, hfatal, Execution.retirement]
      | none =>
          rw [unreached, executions_cons_of_none hfault, runAll]
          simp only [hfault]
          have hrest := ih (x.perform submission.command).exchange
          rw [unreached] at hrest
          simp only [Run.isFatal] at hrest ⊢
          rw [hrest]
          rfl

/-- A run leaves the commands behind the one that was refused in the queue, and
after a fatal fault none. -/
theorem runAll_queue
    (submissions : List Submission) (x : Exchange π) :
    (runAll submissions x).exchange.queue =
      if (runAll submissions x).isFatal then [] else unreached submissions x := by
  induction submissions generalizing x with
  | nil =>
      simp [runAll, unreached]
  | cons submission waiting ih =>
      cases hfault : (x.perform submission.command).fault with
      | some fault =>
          rw [unreached, executions_cons_of_fault hfault, runAll]
          simp only [hfault]
          cases hfatal : fault.isFatal with
          | true => simp [Run.isFatal, hfatal]
          | false => simp [Run.isFatal, hfatal]
      | none =>
          rw [unreached, executions_cons_of_none hfault, runAll]
          simp only [hfault]
          have hrest := ih (x.perform submission.command).exchange
          rw [unreached] at hrest
          simp only [Run.isFatal] at hrest ⊢
          rw [hrest]
          rfl

/-- A run neither loses a command nor retires one twice, and keeps their order. -/
theorem runAll_conserves
    (submissions : List Submission) (x : Exchange π) :
    (runAll submissions x).retired.map Retirement.submission ++
        (runAll submissions x).exchange.queue = submissions := by
  have hchain := map_submission_executions_append submissions x
  have hsubmission : Retirement.submission ∘ Execution.retirement =
      (Execution.submission : Execution π → Submission) := rfl
  have hunanswered : Retirement.submission ∘ Retirement.unanswered = id := rfl
  rw [runAll_retired, runAll_queue]
  cases (runAll submissions x).isFatal with
  | true => simpa [hsubmission, hunanswered] using hchain
  | false => simpa [hsubmission] using hchain

end Exchange
end GhciBridge
