import GhciBridge.Proofs.Exchange.Record
import Mathlib.Data.List.Perm.Basic
import Mathlib.Data.List.Nodup

/-!
# Every command is retired once

At every point of every run of an exchange a submitted command is either queued
and not retired, or retired once and not queued.  Queued commands are retired in
the order in which they were queued.
-/

namespace GhciBridge
namespace Exchange
namespace Record

variable {π : Type}

/-- Submitted commands have numbers of their own, each is queued or retired, and
the queued ones are retired in their order. -/
structure Accounted (r : Record π) : Prop where
  numbered : ∀ submission ∈ r.submitted, submission.id < r.submitted.length
  distinct : r.submitted.Nodup
  conserved : (r.retiredCommands ++ r.exchange.queue).Perm r.submitted
  inOrder : (r.retiredCommands.filter fun s => s ∈ r.enqueued) ++ r.exchange.queue = r.enqueued

namespace Accounted

variable {r : Record π}

theorem ofStart
    (peer : π) (sentinel : Text) (patience : Nat) :
    (start peer sentinel patience).Accounted where
  numbered := by simp [submitted, start]
  distinct := by simp [submitted, start]
  conserved := by simp [submitted, retiredCommands, start, Exchange.start]
  inOrder := by simp [retiredCommands, start, Exchange.start]

theorem ofQueue
    (h : r.Accounted) {x : Exchange π} (hqueue : x.queue = r.exchange.queue) :
    Accounted { r with exchange := x } where
  numbered := h.numbered
  distinct := h.distinct
  conserved := by
    show (r.retiredCommands ++ x.queue).Perm r.submitted
    rw [hqueue]
    exact h.conserved
  inOrder := by
    show (r.retiredCommands.filter fun s => s ∈ r.enqueued) ++ x.queue = r.enqueued
    rw [hqueue]
    exact h.inOrder

theorem next_notMem
    (h : r.Accounted) (command : Command) (purpose : Purpose) :
    r.next command purpose ∉ r.submitted := by
  intro hmem
  exact Nat.lt_irrefl _ (h.numbered _ hmem)

theorem mem_enqueued_of_mem_queue
    (h : r.Accounted) {submission : Submission} (hmem : submission ∈ r.exchange.queue) :
    submission ∈ r.enqueued := by
  rw [← h.inOrder]
  exact List.mem_append_right _ hmem

theorem mem_submitted_of_mem_retired
    (h : r.Accounted) {submission : Submission} (hmem : submission ∈ r.retiredCommands) :
    submission ∈ r.submitted :=
  h.conserved.mem_iff.mp (List.mem_append_left _ hmem)

private theorem numbered_of_perm
    {submitted submitted' : List Submission} {command : Command} {purpose : Purpose}
    (hnumbered : ∀ s ∈ submitted, s.id < submitted.length)
    (hperm : submitted'.Perm (⟨submitted.length, command, purpose⟩ :: submitted)) :
    ∀ s ∈ submitted', s.id < submitted'.length := by
  intro s hs
  rw [hperm.length_eq, List.length_cons]
  rcases List.mem_cons.mp (hperm.mem_iff.mp hs) with rfl | hs
  · exact Nat.lt_succ_self _
  · exact Nat.lt_succ_of_lt (hnumbered s hs)

theorem ofEnqueue
    (h : r.Accounted) (command : Command) (purpose : Purpose) :
    Accounted
      { r with
        exchange := r.exchange.enqueue (r.next command purpose)
        enqueued := r.enqueued ++ [r.next command purpose] } := by
  let s := r.next command purpose
  have hnew : s ∉ r.submitted := h.next_notMem command purpose
  have hperm : (r.executed ++ (r.enqueued ++ [s])).Perm (s :: r.submitted) := by
    rw [← List.append_assoc]
    exact List.perm_append_singleton s r.submitted
  refine ⟨numbered_of_perm h.numbered hperm, ?_, ?_, ?_⟩
  · exact hperm.nodup_iff.mpr (List.nodup_cons.mpr ⟨hnew, h.distinct⟩)
  · show (r.retiredCommands ++ (r.exchange.queue ++ [s])).Perm (r.executed ++ (r.enqueued ++ [s]))
    rw [← List.append_assoc]
    have hconserved := (List.perm_append_singleton s _).trans (h.conserved.cons s)
    exact hconserved.trans hperm.symm
  · show (r.retiredCommands.filter fun t => t ∈ r.enqueued ++ [s]) ++ (r.exchange.queue ++ [s]) =
      r.enqueued ++ [s]
    have hsame : (r.retiredCommands.filter fun t => t ∈ r.enqueued ++ [s]) =
        r.retiredCommands.filter fun t => t ∈ r.enqueued := by
      apply List.filter_congr
      intro t ht
      have hne : t ≠ s := by
        rintro rfl
        exact hnew (h.mem_submitted_of_mem_retired ht)
      simp [hne]
    rw [hsame, ← List.append_assoc, h.inOrder]

theorem count
    (h : r.Accounted) {submission : Submission} (hmem : submission ∈ r.submitted) :
    r.exchange.queue.count submission + r.retiredCommands.count submission = 1 := by
  rw [Nat.add_comm, ← List.count_append, h.conserved.count_eq]
  exact List.count_eq_one_of_mem h.distinct hmem

theorem mem_retired_of_mem_executed
    (h : r.Accounted) {submission : Submission} (hmem : submission ∈ r.executed) :
    submission ∈ r.retiredCommands := by
  have hall := h.conserved.mem_iff.mpr (List.mem_append_left r.enqueued hmem)
  rcases List.mem_append.mp hall with hretired | hqueued
  · exact hretired
  · have hdisjoint := (List.nodup_append.mp h.distinct).2.2
    exact absurd rfl (hdisjoint _ hmem _ (h.mem_enqueued_of_mem_queue hqueued))

variable [Peer π]

theorem ofExecute
    (h : r.Accounted) (command : Command) (purpose : Purpose) :
    (r.apply (.execute command purpose)).1.Accounted := by
  let s := r.next command purpose
  let r' := (r.apply (.execute command purpose)).1
  have hnew : s ∉ r.submitted := h.next_notMem command purpose
  have hperm : r'.submitted.Perm (s :: r.submitted) := by
    show ((r.executed ++ [s]) ++ r.enqueued).Perm (s :: (r.executed ++ r.enqueued))
    rw [List.append_assoc]
    exact List.perm_middle
  have hretired : r'.retiredCommands = r.retiredCommands ++ [s] := by
    show (r.retired ++ _).map Retirement.submission = _
    rw [List.map_append]
    rfl
  have hqueue : r'.exchange.queue = r.exchange.queue := queue_perform r.exchange command
  refine ⟨numbered_of_perm h.numbered hperm, ?_, ?_, ?_⟩
  · exact hperm.nodup_iff.mpr (List.nodup_cons.mpr ⟨hnew, h.distinct⟩)
  · rw [hretired, hqueue, List.append_assoc]
    exact (List.perm_middle.trans (h.conserved.cons s)).trans hperm.symm
  · have hother : s ∉ r.enqueued := fun hmem => hnew (List.mem_append_right _ hmem)
    have henqueued : r'.enqueued = r.enqueued := rfl
    rw [hretired, hqueue, henqueued, List.filter_append]
    simpa [hother] using h.inOrder

theorem ofRunPending
    (h : r.Accounted) :
    (r.apply .runPending).1.Accounted := by
  let run := r.exchange.runPending
  have hrun : run.retired.map Retirement.submission ++ run.exchange.queue = r.exchange.queue :=
    runAll_conserves r.exchange.queue r.exchange
  have hretired : (r.apply .runPending).1.retiredCommands =
      r.retiredCommands ++ run.retired.map Retirement.submission :=
    List.map_append
  refine ⟨h.numbered, h.distinct, ?_, ?_⟩
  · show ((r.apply .runPending).1.retiredCommands ++ run.exchange.queue).Perm r.submitted
    rw [hretired, List.append_assoc, hrun]
    exact h.conserved
  · show ((r.apply .runPending).1.retiredCommands.filter fun s => s ∈ r.enqueued) ++
      run.exchange.queue = r.enqueued
    have hall : ((run.retired.map Retirement.submission).filter fun s => s ∈ r.enqueued) =
        run.retired.map Retirement.submission := by
      rw [List.filter_eq_self]
      intro s hs
      have hmem : s ∈ r.exchange.queue := by
        rw [← hrun]
        exact List.mem_append_left _ hs
      exact decide_eq_true (h.mem_enqueued_of_mem_queue hmem)
    rw [hretired, List.filter_append, hall, List.append_assoc, hrun]
    exact h.inOrder

theorem apply
    (h : r.Accounted) (operation : Operation π) :
    (r.apply operation).1.Accounted := by
  cases operation with
  | feed events => exact h.ofQueue (queue_offer r.exchange events)
  | drop => exact h.ofQueue (queue_disconnect r.exchange)
  | alter change => exact h.ofQueue rfl
  | execute command purpose => exact h.ofExecute command purpose
  | enqueue command purpose => exact h.ofEnqueue command purpose
  | runPending => exact h.ofRunPending
  | sendLine text => exact h.ofQueue (queue_sendLine r.exchange text)
  | waitForPrompt patience =>
      have hqueue := queue_receive r.exchange startup patience
      rw [Record.apply]
      rcases hwait : r.exchange.waitForPrompt patience with ⟨x, lines⟩
      rw [← waitForPrompt, hwait] at hqueue
      cases lines with
      | ok lines => exact h.ofQueue hqueue
      | error fault => exact h.ofQueue hqueue

theorem run
    (h : r.Accounted) (operations : List (Operation π)) :
    (r.run operations).Accounted := by
  induction operations generalizing r with
  | nil => exact h
  | cons operation operations ih => exact ih (h.apply operation)

end Accounted

/-!
## What one operation retires
-/

variable [Peer π]

/-- Executing a command retires it at once, without an answer if the execution
ended in a fault. -/
structure ExecutesOnce (r : Record π) (command : Command) (purpose : Purpose) : Prop where
  retired :
    (r.apply (.execute command purpose)).1.retired =
      r.retired ++ [⟨r.next command purpose, (r.exchange.perform command).answer⟩]
  fault : (r.apply (.execute command purpose)).2 = (r.exchange.perform command).fault
  unanswered :
    (r.exchange.perform command).fault ≠ none → (r.exchange.perform command).answer = none

theorem executesOnce
    (r : Record π) (command : Command) (purpose : Purpose) :
    r.ExecutesOnce command purpose :=
  ⟨rfl, rfl, answer_of_fault⟩

/-- Running the queue executes its commands in order up to the first fault.  The
executed ones are retired, without an answer if their own execution ended in a
fault.  Without a fault that is the whole queue; after a fatal one the others are
retired without an answer, and after another one they stay queued. -/
structure RunsInOrder (r : Record π) : Prop where
  chain :
    (executions r.exchange.queue r.exchange).map Execution.submission ++
      unreached r.exchange.queue r.exchange = r.exchange.queue
  fault :
    (r.apply .runPending).2 =
      (executions r.exchange.queue r.exchange).getLast?.bind fun e => e.outcome.fault
  unanswered :
    ∀ e ∈ executions r.exchange.queue r.exchange,
      e.outcome.fault ≠ none → e.retirement.answer = none
  finished :
    (r.apply .runPending).2 = none →
      (r.apply .runPending).1.retired =
          r.retired ++ (executions r.exchange.queue r.exchange).map Execution.retirement ∧
        unreached r.exchange.queue r.exchange = [] ∧
        (r.apply .runPending).1.exchange.queue = []
  fatal :
    ∀ fault, (r.apply .runPending).2 = some fault → fault.isFatal = true →
      (r.apply .runPending).1.retired =
          r.retired ++ (executions r.exchange.queue r.exchange).map Execution.retirement ++
            (unreached r.exchange.queue r.exchange).map .unanswered ∧
        (r.apply .runPending).1.exchange.queue = []
  refused :
    ∀ fault, (r.apply .runPending).2 = some fault → fault.isFatal = false →
      (r.apply .runPending).1.retired =
          r.retired ++ (executions r.exchange.queue r.exchange).map Execution.retirement ∧
        (r.apply .runPending).1.exchange.queue = unreached r.exchange.queue r.exchange

theorem runsInOrder
    (r : Record π) :
    r.RunsInOrder := by
  have hretired := runAll_retired r.exchange.queue r.exchange
  have hqueue := runAll_queue r.exchange.queue r.exchange
  refine
    { chain := map_submission_executions_append r.exchange.queue r.exchange
      fault := runAll_fault r.exchange.queue r.exchange
      unanswered := fun e he hfault => answer_of_mem_executions he hfault
      finished := ?_
      fatal := ?_
      refused := ?_ }
  · intro hfault
    have hrun : (runAll r.exchange.queue r.exchange).fault = none := hfault
    have hreached := unreached_of_runAll hrun
    simp only [Run.isFatal, hrun, Option.any_none, Bool.false_eq_true, if_false,
      List.append_nil, hreached] at hretired hqueue
    exact ⟨congrArg (r.retired ++ ·) hretired, hreached, hqueue⟩
  · intro fault hfault hfatal
    have hrun : (runAll r.exchange.queue r.exchange).fault = some fault := hfault
    simp only [Run.isFatal, hrun, Option.any_some, hfatal, if_true] at hretired hqueue
    rw [List.append_assoc]
    exact ⟨congrArg (r.retired ++ ·) hretired, hqueue⟩
  · intro fault hfault hmild
    have hrun : (runAll r.exchange.queue r.exchange).fault = some fault := hfault
    simp only [Run.isFatal, hrun, Option.any_some, hmild, Bool.false_eq_true, if_false,
      List.append_nil] at hretired hqueue
    exact ⟨congrArg (r.retired ++ ·) hretired, hqueue⟩

/-- After any operations on a new exchange, whatever its peer does, every
submitted command has been retired exactly once or waits in the queue, never both
and never neither.  A command executed at once does not wait, and the queued ones
are retired in their order. -/
theorem submitted_queued_or_retired_once
    (peer : π) (sentinel : Text) (patience : Nat) (operations : List (Operation π)) :
    let r := (start peer sentinel patience).run operations
    r.submitted.Nodup ∧
      (∀ s, s ∈ r.exchange.queue ∨ s ∈ r.retiredCommands → s ∈ r.submitted) ∧
      (∀ s ∈ r.submitted,
        r.exchange.queue.count s = 1 ∧ r.retiredCommands.count s = 0 ∨
          r.exchange.queue.count s = 0 ∧ r.retiredCommands.count s = 1) ∧
      (∀ s ∈ r.executed, s ∈ r.retiredCommands) ∧
      (r.retiredCommands.filter fun s => s ∈ r.enqueued) ++ r.exchange.queue = r.enqueued ∧
      (∀ command purpose, r.ExecutesOnce command purpose) ∧
      r.RunsInOrder := by
  intro r
  have haccounted : r.Accounted := (Accounted.ofStart peer sentinel patience).run operations
  refine ⟨haccounted.distinct, ?_, ?_, ?_, haccounted.inOrder, r.executesOnce, r.runsInOrder⟩
  · intro s hs
    apply haccounted.conserved.mem_iff.mp
    rcases hs with hqueued | hretired
    · exact List.mem_append_right _ hqueued
    · exact List.mem_append_left _ hretired
  · intro s hs
    have hcount := haccounted.count hs
    omega
  · intro s hs
    exact haccounted.mem_retired_of_mem_executed hs

end Record
end Exchange
end GhciBridge
