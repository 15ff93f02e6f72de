import GhciBridge.Proofs.Session.Outcome
import Mathlib.Data.List.Perm.Basic

/-!
# The custody of submitted commands

A command that is handed to a session is retired at once if no interpreter runs,
and else it is run, or queued, or retired when the session ends.  So what was
retired and what is queued make up what was handed over.
-/

namespace GhciBridge
namespace Session

/-- The submission that a caller hands over, if the operation is given one. -/
def Operation.handed? : Operation → Option Submission
  | .execute submission => some submission
  | .enqueue submission => some submission
  | _ => none

theorem filterMap_handed_cons
    (operation : Operation) (operations : List Operation) :
    (operation :: operations).filterMap Operation.handed? =
      operation.handed?.toList ++ operations.filterMap Operation.handed? := by
  cases hhanded : operation.handed? with
  | none => exact List.filterMap_cons_none hhanded
  | some submission => exact List.filterMap_cons_some hhanded

variable {η : Type}

/-- All submissions that a session has had in its hands. -/
def ledger (s : Session η) : List Submission :=
  s.retired.map Retirement.submission ++ s.queued

theorem map_submission_unanswered
    (submissions : List Submission) :
    (submissions.map Retirement.unanswered).map Retirement.submission = submissions := by
  rw [List.map_map]
  exact List.map_id submissions

theorem queued_of_idle
    {s : Session η} (hidle : s.isRunning = false) :
    s.queued = [] := by
  cases hlink : s.link with
  | idle host => rw [queued, hlink]
  | live x =>
      rw [isRunning_of_live hlink] at hidle
      cases hidle

variable [Host η]

/-!
## One operation
-/

/-- The retirements of the submitted commands that an operation runs. -/
def ran (s : Session η) (operation : Operation) : List Retirement :=
  match s.link with
  | .idle _ => []
  | .live x =>
      match operation with
      | .execute submission => [⟨submission, (x.perform submission.command).answer⟩]
      | .runPending => (Exchange.executions x.queue x).map Exchange.Execution.retirement
      | _ => []

/-- The submissions that wait behind those that an operation runs. -/
def left (s : Session η) (operation : Operation) : List Submission :=
  match s.link with
  | .idle _ => []
  | .live x =>
      match operation with
      | .enqueue submission => x.queue ++ [submission]
      | .runPending => Exchange.unreached x.queue x
      | _ => x.queue

/-- What an operation does with the submitted commands. -/
inductive Turn (s : Session η) (operation : Operation) (t : Session η) : Prop where
  | idle
      (hidle : s.isRunning = false)
      (hretired : t.retired = s.retired ++ operation.handed?.toList.map .unanswered)
      (hqueued : t.queued = [])
  | kept
      (hrunning : s.isRunning = true)
      (hgoing : t.isRunning = true)
      (hretired : t.retired = s.retired ++ s.ran operation)
      (hqueued : t.queued = s.left operation)
  | ended
      (hrunning : s.isRunning = true)
      (hended : t.isRunning = false)
      (hretired : t.retired =
        s.retired ++ s.ran operation ++ (s.left operation).map .unanswered)

theorem ran_append_left
    {s : Session η} (hrunning : s.isRunning = true) (operation : Operation) :
    ((s.ran operation).map Retirement.submission ++ s.left operation).Perm
      (s.queued ++ operation.handed?.toList) := by
  cases hlink : s.link with
  | idle host =>
      rw [isRunning_of_idle hlink] at hrunning
      cases hrunning
  | live x =>
      rw [ran, left, queued, hlink]
      cases operation with
      | execute submission =>
          show ([submission] ++ x.queue).Perm (x.queue ++ [submission])
          exact List.perm_append_comm
      | enqueue submission => exact List.Perm.refl _
      | runPending =>
          have hchain := Exchange.map_submission_executions_append x.queue x
          have hsame : ((Exchange.executions x.queue x).map Exchange.Execution.retirement).map
              Retirement.submission =
                (Exchange.executions x.queue x).map Exchange.Execution.submission := by
            rw [List.map_map]
            rfl
          simp only [hsame, hchain, Operation.handed?, Option.toList_none, List.append_nil]
          exact List.Perm.refl _
      | _ =>
          show x.queue.Perm (x.queue ++ [])
          rw [List.append_nil]

theorem turn_self
    {s : Session η} {operation : Operation} (hhanded : operation.handed? = none)
    (hran : s.ran operation = []) (hleft : s.left operation = s.queued) :
    s.Turn operation s := by
  cases hrunning : s.isRunning with
  | false =>
      refine .idle hrunning ?_ (queued_of_idle hrunning)
      rw [hhanded]
      exact (List.append_nil _).symm
  | true =>
      refine .kept hrunning hrunning ?_ hleft.symm
      rw [hran, List.append_nil]

theorem Turn.of_agrees
    {s t t' : Session η} {operation : Operation} (hturn : s.Turn operation t)
    (hagrees : t.Agrees t') :
    s.Turn operation t' := by
  have hrunning : t'.isRunning = t.isRunning := congrArg Link.isLive hagrees.link
  have hqueued : t'.queued = t.queued := by
    rw [queued, queued, hagrees.link]
  cases hturn with
  | idle hidle hretired hempty =>
      exact .idle hidle (hagrees.retired.trans hretired) (hqueued.trans hempty)
  | kept hrunning' hgoing hretired hleft =>
      exact .kept hrunning' (hrunning.trans hgoing) (hagrees.retired.trans hretired)
        (hqueued.trans hleft)
  | ended hrunning' hended hretired =>
      exact .ended hrunning' (hrunning.trans hended) (hagrees.retired.trans hretired)

/-- The turn of an operation that runs commands. -/
theorem turn_afterRun
    {s : Session η} {x : Exchange η} {operation : Operation} {run : Exchange.Run η}
    (hlink : s.link = .live x)
    (hall : run.retired ++ run.exchange.queue.map .unanswered =
      s.ran operation ++ (s.left operation).map .unanswered)
    (hmild : run.isFatal = false →
      run.retired = s.ran operation ∧ run.exchange.queue = s.left operation) :
    s.Turn operation (s.afterRun run).1 := by
  have hrunning := isRunning_of_live hlink
  cases hfatal : run.isFatal with
  | false =>
      rcases hmild hfatal with ⟨hretired, hqueue⟩
      rw [afterRun_of_mild hfatal]
      exact .kept hrunning rfl (congrArg (s.retired ++ ·) hretired) hqueue
  | true =>
      rw [afterRun_of_fatal hfatal]
      refine .ended hrunning rfl ?_
      simp only [List.append_assoc]
      exact congrArg (s.retired ++ ·) hall

theorem turn_ask
    (s : Session η) (query : Query) (command : Command) :
    s.Turn (.query query) (s.ask command).1 := by
  cases hlink : s.link with
  | idle host =>
      rw [ask_of_idle hlink]
      exact turn_self rfl (by rw [ran, hlink]) (by rw [left, queued, hlink])
  | live x =>
      have hqueue := Exchange.queue_perform x command
      have hran : s.ran (.query query) = [] := by
        rw [ran, hlink]
      have hleft : s.left (.query query) = x.queue := by
        rw [left, hlink]
      cases hfault : (x.perform command).fault with
      | none =>
          rw [ask_of_none hlink hfault]
          refine .kept (isRunning_of_live hlink) rfl ?_ (hqueue.trans hleft.symm)
          rw [hran, List.append_nil]
      | some fault =>
          rw [ask_of_fault hlink hfault]
          apply turn_afterRun hlink
          · rw [hran, hleft, consult, hqueue]
          · intro _
            rw [hran, hleft]
            exact ⟨rfl, hqueue⟩

theorem turn_query
    (s : Session η) (query : Query) :
    s.Turn (.query query) (s.query query) := by
  have hagrees := agrees_query s query
  cases hcommand : s.command? query with
  | some command =>
      rw [hcommand] at hagrees
      exact (turn_ask s query command).of_agrees hagrees
  | none =>
      rw [hcommand] at hagrees
      have hself : s.Turn (.query query) s := by
        cases hlink : s.link with
        | idle host => exact turn_self rfl (by rw [ran, hlink]) (by rw [left, queued, hlink])
        | live x => exact turn_self rfl (by rw [ran, hlink]) (by rw [left, queued, hlink])
      exact hself.of_agrees hagrees

theorem turn_start
    (s : Session η) :
    s.Turn .start s.start.1 := by
  have hbegins := begins s
  cases hlink : s.link with
  | idle host =>
      have hidle := isRunning_of_idle hlink
      generalize s.start = step at hbegins
      cases hbegins with
      | refused => exact .idle hidle (List.append_nil _).symm (queued_of_idle hidle)
      | unread => exact .idle hidle (List.append_nil _).symm rfl
      | failed => exact .idle hidle (List.append_nil _).symm rfl
      | started hlink' hlaunch hreader hpeer hqueue =>
          exact .idle hidle (List.append_nil _).symm hqueue
  | live x =>
      rw [start, hlink]
      exact turn_self rfl (by rw [ran, hlink]) (by rw [left, queued, hlink])

theorem turn_stop
    (s : Session η) :
    s.Turn .stop s.stop := by
  cases hlink : s.link with
  | idle host =>
      rw [stop, hlink]
      exact turn_self rfl (by rw [ran, hlink]) (by rw [left, queued, hlink])
  | live x =>
      rw [stop_eq hlink]
      refine .ended (isRunning_of_live hlink) rfl ?_
      rw [ran, left, hlink, List.append_nil]

theorem turn_step
    (s : Session η) (request : StepRequest) :
    s.Turn (.step request) s := by
  cases hlink : s.link with
  | idle host => exact turn_self rfl (by rw [ran, hlink]) (by rw [left, queued, hlink])
  | live x => exact turn_self rfl (by rw [ran, hlink]) (by rw [left, queued, hlink])

theorem turn_execute
    (s : Session η) (submission : Submission) :
    s.Turn (.execute submission) (s.execute submission).1 := by
  cases hlink : s.link with
  | idle host =>
      have hidle := isRunning_of_idle hlink
      rw [execute, hlink]
      exact .idle hidle rfl (queued_of_idle hidle)
  | live x =>
      have hqueue := Exchange.queue_perform x submission.command
      have hran : s.ran (.execute submission) =
          [⟨submission, (x.perform submission.command).answer⟩] := by
        rw [ran, hlink]
      have hleft : s.left (.execute submission) = x.queue := by
        rw [left, hlink]
      rw [execute, hlink]
      apply turn_afterRun hlink
      · rw [hran, hleft, Exchange.execute, hqueue]
      · intro _
        rw [hran, hleft]
        exact ⟨rfl, hqueue⟩

theorem turn_enqueue
    (s : Session η) (submission : Submission) :
    s.Turn (.enqueue submission) (s.enqueue submission).1 := by
  cases hlink : s.link with
  | idle host =>
      have hidle := isRunning_of_idle hlink
      rw [enqueue, hlink]
      exact .idle hidle rfl (queued_of_idle hidle)
  | live x =>
      rw [enqueue, hlink]
      refine .kept (isRunning_of_live hlink) rfl ?_ ?_
      · rw [ran, hlink, List.append_nil]
      · rw [left, hlink]
        rfl

theorem turn_runPending
    (s : Session η) :
    s.Turn .runPending s.runPending.1 := by
  cases hlink : s.link with
  | idle host =>
      rw [runPending, hlink]
      exact turn_self rfl (by rw [ran, hlink]) (by rw [left, queued, hlink])
  | live x =>
      have hretired := Exchange.runAll_retired x.queue x
      have hqueue := Exchange.runAll_queue x.queue x
      have hran : s.ran .runPending =
          (Exchange.executions x.queue x).map Exchange.Execution.retirement := by
        rw [ran, hlink]
      have hleft : s.left .runPending = Exchange.unreached x.queue x := by
        rw [left, hlink]
      rw [runPending, hlink]
      apply turn_afterRun hlink
      · rw [hran, hleft, Exchange.runPending, hretired, hqueue]
        cases (Exchange.runAll x.queue x).isFatal with
        | true => simp
        | false => simp
      · intro hmild
        have hrun : (Exchange.runAll x.queue x).isFatal = false := hmild
        rw [hran, hleft, Exchange.runPending, hretired, hqueue, hrun]
        exact ⟨List.append_nil _, rfl⟩

theorem turn
    (s : Session η) (operation : Operation) :
    s.Turn operation (s.apply operation) := by
  cases operation with
  | start => exact turn_start s
  | stop => exact turn_stop s
  | step request => exact turn_step s request
  | query query => exact turn_query s query
  | execute submission => exact turn_execute s submission
  | enqueue submission => exact turn_enqueue s submission
  | runPending => exact turn_runPending s

theorem retired_of_idle
    {s : Session η} (hidle : s.isRunning = false) (operation : Operation) :
    (s.apply operation).retired =
      s.retired ++ operation.handed?.toList.map .unanswered := by
  have hturn := turn s operation
  generalize s.apply operation = t at hturn
  cases hturn with
  | idle hidle' hretired => exact hretired
  | kept hrunning =>
      rw [hidle] at hrunning
      cases hrunning
  | ended hrunning =>
      rw [hidle] at hrunning
      cases hrunning

theorem retired_of_ended
    {s : Session η} {operation : Operation} (hrunning : s.isRunning = true)
    (hended : (s.apply operation).isRunning = false) :
    (s.apply operation).retired =
      s.retired ++ s.ran operation ++ (s.left operation).map .unanswered := by
  have hturn := turn s operation
  generalize s.apply operation = t at hended hturn
  cases hturn with
  | idle hidle =>
      rw [hrunning] at hidle
      cases hidle
  | kept hrunning' hgoing =>
      rw [hended] at hgoing
      cases hgoing
  | ended hrunning' hended' hretired => exact hretired

/-!
## The account
-/

/-- No operation loses a submission or has it twice. -/
theorem ledger_apply
    (s : Session η) (operation : Operation) :
    (s.apply operation).ledger.Perm (s.ledger ++ operation.handed?.toList) := by
  have hturn := turn s operation
  generalize s.apply operation = t at hturn
  cases hturn with
  | idle hidle hretired hqueued =>
      rw [ledger, ledger, hretired, hqueued, queued_of_idle hidle, List.map_append,
        map_submission_unanswered, List.append_nil, List.append_nil]
  | kept hrunning hgoing hretired hqueued =>
      rw [ledger, ledger, hretired, hqueued, List.map_append, List.append_assoc,
        List.append_assoc]
      exact (ran_append_left hrunning operation).append_left _
  | ended hrunning hended hretired =>
      rw [ledger, ledger, hretired, queued_of_idle hended, List.append_nil, List.map_append,
        List.map_append, map_submission_unanswered, List.append_assoc, List.append_assoc]
      exact (ran_append_left hrunning operation).append_left _

theorem ledger_after
    (s : Session η) (operations : List Operation) :
    (s.after operations).ledger.Perm (s.ledger ++ operations.filterMap Operation.handed?) := by
  induction operations generalizing s with
  | nil =>
      rw [List.filterMap_nil, List.append_nil]
      exact List.Perm.refl _
  | cons operation operations ih =>
      rw [after, filterMap_handed_cons, ← List.append_assoc]
      exact (ih (s.apply operation)).trans ((ledger_apply s operation).append_right _)

theorem exists_retired_apply
    (s : Session η) (operation : Operation) :
    ∃ behind, (s.apply operation).retired = s.retired ++ (s.ran operation ++ behind) := by
  have hturn := turn s operation
  generalize s.apply operation = t at hturn
  cases hturn with
  | idle hidle hretired =>
      have hran : s.ran operation = [] := by
        cases hlink : s.link with
        | idle host => rw [ran, hlink]
        | live x =>
            rw [isRunning_of_live hlink] at hidle
            cases hidle
      rw [hran]
      exact ⟨_, hretired⟩
  | kept hrunning hgoing hretired =>
      rw [hretired]
      exact ⟨[], by rw [List.append_nil]⟩
  | ended hrunning hended hretired =>
      rw [hretired, List.append_assoc]
      exact ⟨_, rfl⟩

end Session
end GhciBridge
