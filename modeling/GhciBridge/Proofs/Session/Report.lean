import GhciBridge.Proofs.Session.Custody

/-!
# A session changes as its outcomes say

After a fault that is not fatal a session is what it was.  A fatal fault ends it:
nothing is known any more, and the command that failed and all commands behind it
get nothing.  After a success it knows what the gain tells and no more.  So a
session that does not run knows no breakpoints.
-/

namespace GhciBridge

def Callback.unanswered (command : Command) : Callback :=
  ⟨command, none⟩

namespace Session

variable {η : Type} [Host η]

/-!
## Commands of an operation
-/

/-- A command that was run, and how its execution ended. -/
structure Attempt (η : Type) where
  command : Command
  outcome : Exchange.Outcome η

namespace Attempt

def ofExecution (execution : Exchange.Execution η) : Attempt η :=
  ⟨execution.submission.command, execution.outcome⟩

def callback (attempt : Attempt η) : Callback :=
  ⟨attempt.command, attempt.outcome.answer⟩

end Attempt

/-- The commands that an operation runs. -/
def attempts (s : Session η) (operation : Operation) : List (Attempt η) :=
  match s.link with
  | .idle _ => []
  | .live x =>
      match operation with
      | .query query => (s.command? query).toList.map fun command => ⟨command, x.perform command⟩
      | .execute submission => [⟨submission.command, x.perform submission.command⟩]
      | .runPending => (Exchange.executions x.queue x).map .ofExecution
      | _ => []

def ownCommands (s : Session η) : Operation → List Command
  | .query query => (s.command? query).toList
  | .execute submission => [submission.command]
  | _ => []

/-- The commands that wait when an operation begins: its own one and the queue. -/
def agenda (s : Session η) (operation : Operation) : List Command :=
  s.ownCommands operation ++ s.queued.map Submission.command

/-- What becomes of the commands of an operation that ends in a fatal fault. -/
inductive Abandons (s : Session η) (operation : Operation) (fault : Fault) : Prop where
  /-- When a session is started no commands wait. -/
  | start
      (hstart : operation = .start)
      (hagenda : s.agenda operation = [])
      (hcallbacks : s.callbacks operation = [])
  | commands (answered : List (Attempt η)) (failing : Attempt η) (behind : List Command)
      (hattempts : s.attempts operation = answered ++ [failing])
      (hanswered : ∀ attempt ∈ answered, attempt.outcome.fault = none)
      (hfailing : failing.outcome.fault = some fault)
      (hagenda : s.agenda operation =
        answered.map Attempt.command ++ failing.command :: behind)
      (hcallbacks : s.callbacks operation =
        answered.map Attempt.callback ++ (failing.command :: behind).map .unanswered)

theorem map_callback_unanswered
    (submissions : List Submission) :
    (submissions.map Retirement.unanswered).map Retirement.callback =
      (submissions.map Submission.command).map Callback.unanswered := by
  rw [List.map_map, List.map_map]
  rfl

theorem abandons_query
    {s : Session η} {x : Exchange η} {query : Query} {command : Command} {fault : Fault}
    (hlink : s.link = .live x) (hcommand : s.command? query = some command)
    (hfault : (x.perform command).fault = some fault)
    (hended : (s.apply (.query query)).isRunning = false) :
    s.Abandons (.query query) fault := by
  have hretired := retired_of_ended (isRunning_of_live hlink) hended
  simp only [ran, left, hlink, List.append_nil] at hretired
  have hask : (s.ask command).2.toOption.join = none := by
    rw [ask_of_fault hlink hfault]
    rfl
  refine .commands [] ⟨command, x.perform command⟩ (x.queue.map Submission.command) ?_ ?_ hfault
    ?_ ?_
  · simp only [attempts, hlink, hcommand, Option.toList_some, List.map_singleton,
      List.nil_append]
  · intro attempt hmem
    cases hmem
  · rw [agenda, ownCommands, hcommand, queued_of_live hlink]
    rfl
  · rw [callbacks_of_retired hretired, ownCallback, hcommand, map_callback_unanswered]
    simp only [Option.toList_some, List.map_singleton, hask]
    rfl

theorem abandons_execute
    {s : Session η} {x : Exchange η} {submission : Submission} {fault : Fault}
    (hlink : s.link = .live x) (hfault : (x.perform submission.command).fault = some fault)
    (hended : (s.apply (.execute submission)).isRunning = false) :
    s.Abandons (.execute submission) fault := by
  have hnone : (x.perform submission.command).answer = none := by
    apply Exchange.answer_of_fault
    rw [hfault]
    exact Option.some_ne_none fault
  have hretired := retired_of_ended (isRunning_of_live hlink) hended
  simp only [ran, left, hlink, hnone, List.append_assoc] at hretired
  refine .commands [] ⟨submission.command, x.perform submission.command⟩
    (x.queue.map Submission.command) ?_ ?_ hfault ?_ ?_
  · simp only [attempts, hlink, List.nil_append]
  · intro attempt hmem
    cases hmem
  · rw [agenda, queued_of_live hlink]
    rfl
  · rw [callbacks_of_retired hretired, List.map_append, map_callback_unanswered]
    rfl

theorem abandons_runPending
    {s : Session η} {x : Exchange η} {fault : Fault}
    (hlink : s.link = .live x) (hfault : x.runPending.fault = some fault)
    (hended : (s.apply .runPending).isRunning = false) :
    s.Abandons .runPending fault := by
  rcases Exchange.exists_failing hfault with ⟨front, failing, hsplit, hfailing, hfront⟩
  have hnone : failing.outcome.answer = none := by
    have hmem : failing ∈ Exchange.executions x.queue x := by
      rw [hsplit]
      exact List.mem_append_right _ (List.mem_singleton_self failing)
    apply Exchange.answer_of_mem_executions hmem
    rw [hfailing]
    exact Option.some_ne_none fault
  have hchain := Exchange.map_submission_executions_append x.queue x
  have hretired := retired_of_ended (isRunning_of_live hlink) hended
  simp only [ran, left, hlink, hsplit, List.map_append, List.append_assoc] at hretired
  generalize Exchange.unreached x.queue x = behind at hchain hretired
  refine .commands (front.map .ofExecution) (.ofExecution failing)
    (behind.map Submission.command) ?_ ?_ hfailing ?_ ?_
  · simp only [attempts, hlink, hsplit, List.map_append, List.map_singleton]
  · intro attempt hmem
    rcases List.mem_map.mp hmem with ⟨execution, hexecution, rfl⟩
    exact hfront execution hexecution
  · rw [agenda, queued_of_live hlink, ← hchain, hsplit]
    simp only [List.map_append, List.map_map, List.append_assoc]
    rfl
  · have hsame : (front.map Exchange.Execution.retirement).map Retirement.callback =
        (front.map Attempt.ofExecution).map Attempt.callback := by
      rw [List.map_map, List.map_map]
      rfl
    have hlast : ([failing].map Exchange.Execution.retirement).map Retirement.callback =
        [.unanswered failing.submission.command] := by
      show [Callback.mk failing.submission.command failing.outcome.answer] = _
      rw [hnone]
      rfl
    rw [callbacks_of_retired hretired, List.map_append, List.map_append,
      map_callback_unanswered, hsame, hlast]
    rfl

/-!
## Reports
-/

/-- What the outcome of an operation tells of the session after it. -/
structure Reports (s : Session η) (operation : Operation) : Prop where
  refused :
    ∀ fault, s.outcome operation = .error fault → fault.isFatal = false →
      (s.apply operation).isRunning = s.isRunning ∧
        (s.apply operation).knowledge = s.knowledge
  lost :
    ∀ fault, s.outcome operation = .error fault → fault.isFatal = true →
      (s.apply operation).isRunning = false ∧
        (s.apply operation).breakpoints = .empty ∧
        s.Abandons operation fault
  gained :
    ∀ gain, s.outcome operation = .ok gain →
      (s.apply operation).knowledge = s.knowledge.after operation gain

/-- A session that does not run knows no breakpoints. -/
def IsSound (s : Session η) : Prop :=
  s.isRunning = false → s.breakpoints = .empty

variable {s : Session η} {operation : Operation}

theorem reports_of_mild
    {fault : Fault} (houtcome : s.outcome operation = .error fault)
    (hmild : fault.isFatal = false) (hrunning : (s.apply operation).isRunning = s.isRunning)
    (hknown : (s.apply operation).knowledge = s.knowledge) :
    s.Reports operation := by
  constructor
  · intro _ _ _
    exact ⟨hrunning, hknown⟩
  · intro other hother hfatal
    rw [houtcome] at hother
    cases hother
    rw [hmild] at hfatal
    cases hfatal
  · intro gain hgain
    rw [houtcome] at hgain
    cases hgain

theorem reports_of_fatal
    {fault : Fault} (houtcome : s.outcome operation = .error fault)
    (hfatal : fault.isFatal = true) (hidle : (s.apply operation).isRunning = false)
    (hempty : (s.apply operation).breakpoints = .empty)
    (habandons : s.Abandons operation fault) :
    s.Reports operation := by
  constructor
  · intro other hother hmild
    rw [houtcome] at hother
    cases hother
    rw [hfatal] at hmild
    cases hmild
  · intro other hother _
    rw [houtcome] at hother
    cases hother
    exact ⟨hidle, hempty, habandons⟩
  · intro gain hgain
    rw [houtcome] at hgain
    cases hgain

theorem reports_of_ok
    {gain : Gain} (houtcome : s.outcome operation = .ok gain)
    (hknown : (s.apply operation).knowledge = s.knowledge.after operation gain) :
    s.Reports operation := by
  constructor
  · intro fault hfault _
    rw [houtcome] at hfault
    cases hfault
  · intro fault hfault _
    rw [houtcome] at hfault
    cases hfault
  · intro other hother
    rw [houtcome] at hother
    cases hother
    exact hknown

omit [Host η] in
theorem isSound_of_running
    (h : s.isRunning = true) :
    s.IsSound := by
  intro hidle
  rw [h] at hidle
  cases hidle

/-- A refusal that leaves a session as it was, or only retires commands. -/
theorem reports_of_refusal
    {fault : Fault} {retired : List Retirement} (hsound : s.IsSound)
    (happly : s.apply operation = s.retire retired)
    (houtcome : s.outcome operation = .error fault) (hmild : fault.isFatal = false) :
    s.Reports operation ∧ (s.apply operation).IsSound := by
  constructor
  · apply reports_of_mild houtcome hmild
    · rw [happly]
      rfl
    · rw [happly]
      rfl
  · rw [happly]
    exact hsound

/-- A run of the exchange that ends in a fault. -/
theorem reports_of_fault
    {x : Exchange η} {run : Exchange.Run η} {fault : Fault} (hlink : s.link = .live x)
    (hfault : run.fault = some fault) (happly : s.apply operation = (s.afterRun run).1)
    (houtcome : s.outcome operation = .error fault)
    (habandons : (s.apply operation).isRunning = false → s.Abandons operation fault) :
    s.Reports operation ∧ (s.apply operation).IsSound := by
  have hrun : run.isFatal = fault.isFatal := by
    rw [Exchange.Run.isFatal, hfault]
    rfl
  cases hfatal : fault.isFatal with
  | false =>
      rw [afterRun_of_mild (hrun.trans hfatal)] at happly
      have hrunning : (s.apply operation).isRunning = true := by
        rw [happly]
        rfl
      constructor
      · apply reports_of_mild houtcome hfatal
        · rw [hrunning, isRunning_of_live hlink]
        · rw [happly]
          rfl
      · exact isSound_of_running hrunning
  | true =>
      rw [afterRun_of_fatal (hrun.trans hfatal)] at happly
      have hempty : (s.apply operation).breakpoints = .empty := by
        rw [happly]
      have hended : (s.apply operation).isRunning = false := by
        rw [happly]
        rfl
      exact ⟨reports_of_fatal houtcome hfatal hended hempty (habandons hended), fun _ => hempty⟩

theorem reports_of_gain
    {gain : Gain} (hrunning : (s.apply operation).isRunning = true)
    (houtcome : s.outcome operation = .ok gain)
    (hknown : (s.apply operation).knowledge = s.knowledge.after operation gain) :
    s.Reports operation ∧ (s.apply operation).IsSound :=
  ⟨reports_of_ok houtcome hknown, isSound_of_running hrunning⟩

/-- A run of the exchange from which nothing is learnt. -/
theorem reports_of_run
    {x : Exchange η} {run : Exchange.Run η} (hlink : s.link = .live x)
    (happly : s.apply operation = (s.afterRun run).1)
    (houtcome : s.outcome operation = (result run.fault).map fun _ => Gain.nothing)
    (hknown : s.knowledge.after operation .nothing = s.knowledge)
    (habandons : ∀ fault, run.fault = some fault → (s.apply operation).isRunning = false →
      s.Abandons operation fault) :
    s.Reports operation ∧ (s.apply operation).IsSound := by
  cases hfault : run.fault with
  | some fault =>
      rw [hfault] at houtcome
      exact reports_of_fault hlink hfault happly houtcome (habandons fault hfault)
  | none =>
      have hmild : run.isFatal = false := by
        rw [Exchange.Run.isFatal, hfault]
        rfl
      rw [afterRun_of_mild hmild] at happly
      rw [hfault] at houtcome
      apply reports_of_gain _ houtcome
      · rw [happly, hknown]
        rfl
      · rw [happly]
        rfl

/-!
### Each operation
-/

theorem reports_start
    (hsound : s.IsSound) :
    s.Reports .start ∧ (s.apply .start).IsSound := by
  have hbegins := begins s
  generalize hstart : s.start = step at hbegins
  have happly : s.apply .start = step.1 := congrArg Prod.fst hstart
  have houtcome : s.outcome .start = step.2.map fun _ => Gain.nothing :=
    congrArg (fun step => step.2.map fun _ => Gain.nothing) hstart
  -- no command waits for a session that does not run, so a fatal fault abandons none
  have habandons : ∀ fault, s.isRunning = false → (s.apply .start).retired = s.retired →
      s.Abandons .start fault := by
    intro fault hidle hretired
    have hqueue : s.queued = [] := queued_of_idle hidle
    rw [← List.append_nil s.retired] at hretired
    refine .start rfl ?_ ?_
    · rw [agenda, hqueue]
      rfl
    · rw [callbacks_of_retired hretired]
      rfl
  have hgivenUp : ∀ left : η, s.isRunning = false → step.1 = { s with link := .idle left } →
      (s.apply .start).isRunning = false ∧ (s.apply .start).breakpoints = .empty := by
    intro left hidle hstep
    rw [happly, hstep]
    exact ⟨rfl, hsound hidle⟩
  cases hbegins with
  | @refused fault hreader hmild =>
      have hsame : (s.apply .start).IsSound := by
        rw [happly]
        exact hsound
      cases hfatal : fault.isFatal with
      | false =>
          refine ⟨reports_of_mild houtcome hfatal ?_ ?_, hsame⟩
          · rw [happly]
          · rw [happly]
      | true =>
          have hidle : s.isRunning = false := by
            cases hrunning : s.isRunning with
            | false => rfl
            | true => exact absurd (hmild hrunning) (by simp [hfatal])
          refine ⟨reports_of_fatal houtcome hfatal ?_ ?_ ?_, hsame⟩
          · rw [happly]
            exact hidle
          · rw [happly]
            exact hsound hidle
          · exact habandons fault hidle (by rw [happly])
  | unread hidle hlaunch =>
      have hidle' : s.isRunning = false := isRunning_of_idle hidle
      rcases hgivenUp _ hidle' rfl with ⟨hstopped, hempty⟩
      refine ⟨reports_of_fatal houtcome rfl hstopped hempty ?_, fun _ => hempty⟩
      exact habandons .io hidle' (by rw [happly])
  | @failed host launched speech fault hidle hlaunch =>
      have hidle' : s.isRunning = false := isRunning_of_idle hidle
      rcases hgivenUp _ hidle' rfl with ⟨hstopped, hempty⟩
      refine ⟨?_, fun _ => hempty⟩
      cases hfatal : fault.isFatal with
      | false =>
          apply reports_of_mild houtcome hfatal
          · rw [hstopped, hidle']
          · rw [happly]
            rfl
      | true =>
          apply reports_of_fatal houtcome hfatal hstopped hempty
          exact habandons fault hidle' (by rw [happly])
  | started hidle hlaunch hreader hpeer hqueue =>
      apply reports_of_gain _ houtcome
      · rw [happly]
        rfl
      · rw [happly]
        rfl

theorem reports_stop
    (hsound : s.IsSound) :
    s.Reports .stop ∧ (s.apply .stop).IsSound := by
  have hempty : (s.apply .stop).breakpoints = .empty := by
    cases hlink : s.link with
    | idle host =>
        have hsame : s.apply .stop = s := by
          rw [apply, stop, hlink]
        rw [hsame]
        exact hsound (isRunning_of_idle hlink)
    | live x => rw [apply, stop_eq hlink]
  have hcursor : (s.apply .stop).cursor = s.cursor := by
    cases hlink : s.link with
    | idle host => rw [apply, stop, hlink]
    | live x => rw [apply, stop_eq hlink]
  refine ⟨reports_of_ok rfl ?_, fun _ => hempty⟩
  rw [knowledge, hempty, hcursor]
  rfl

theorem reports_query
    (hsound : s.IsSound) (query : Query) :
    s.Reports (.query query) ∧ (s.apply (.query query)).IsSound := by
  cases s.inquiry query with
  | unasked hcommand hquery houtcome hknown =>
      have happly : s.apply (.query query) = s := hquery
      refine ⟨reports_of_ok houtcome ?_, ?_⟩
      · rw [happly, hknown]
      · rw [happly]
        exact hsound
  | @failed command t fault hcommand hask hquery houtcome =>
      cases hlink : s.link with
      | idle host =>
          rw [ask_of_idle hlink] at hask
          cases hask
          have happly : s.apply (.query query) = s.retire [] := by
            rw [apply, hquery, retire, List.append_nil]
          exact reports_of_refusal hsound happly houtcome rfl
      | live x =>
          cases hfault : (x.perform command).fault with
          | none =>
              rw [ask_of_none hlink hfault] at hask
              cases hask
          | some first =>
              have hasked := ask_of_fault hlink hfault
              rw [hask, Prod.mk.injEq, Except.error.injEq] at hasked
              rcases hasked with ⟨ht, rfl⟩
              have hfault' : (consult x command).fault = some fault := hfault
              have happly : s.apply (.query query) = (s.afterRun (consult x command)).1 :=
                hquery.trans ht
              apply reports_of_fault hlink hfault' happly houtcome
              exact abandons_query hlink hcommand hfault
  | useless hcommand hask hquery houtcome hmild =>
      rcases exists_live_of_ask hask with ⟨x, hlink, -, rfl⟩
      have hrunning : (s.apply (.query query)).isRunning = true := by
        rw [apply, hquery]
        rfl
      refine ⟨reports_of_mild houtcome hmild ?_ ?_, isSound_of_running hrunning⟩
      · rw [hrunning, isRunning_of_live hlink]
      · rw [apply, hquery]
        rfl
  | @gained command t answer gain hcommand hask hquery houtcome =>
      rcases exists_live_of_ask hask with ⟨x, hlink, -, rfl⟩
      have hrunning : (s.apply (.query query)).isRunning = true := by
        rw [apply, hquery]
        rfl
      have hknown : (s.apply (.query query)).knowledge = s.knowledge.after (.query query) gain := by
        rw [apply, hquery]
        rfl
      exact reports_of_gain hrunning houtcome hknown

theorem reports_execute
    (hsound : s.IsSound) (submission : Submission) :
    s.Reports (.execute submission) ∧ (s.apply (.execute submission)).IsSound := by
  cases hlink : s.link with
  | idle host =>
      have hexecute : s.execute submission =
          (s.retire [.unanswered submission], .error .notRunning) := by
        rw [execute, hlink]
      have happly : s.apply (.execute submission) = s.retire [.unanswered submission] :=
        congrArg Prod.fst hexecute
      have houtcome : s.outcome (.execute submission) = .error .notRunning := by
        rw [outcome, hexecute]
        rfl
      exact reports_of_refusal hsound happly houtcome rfl
  | live x =>
      have hexecute : s.execute submission = s.afterRun (x.execute submission) := by
        rw [execute, hlink]
      have happly : s.apply (.execute submission) = (s.afterRun (x.execute submission)).1 :=
        congrArg Prod.fst hexecute
      have houtcome : s.outcome (.execute submission) =
          (result (x.execute submission).fault).map fun _ => Gain.nothing := by
        rw [outcome, hexecute]
        rfl
      apply reports_of_run hlink happly houtcome rfl
      intro fault hfault hended
      exact abandons_execute hlink hfault hended

theorem reports_enqueue
    (hsound : s.IsSound) (submission : Submission) :
    s.Reports (.enqueue submission) ∧ (s.apply (.enqueue submission)).IsSound := by
  cases hlink : s.link with
  | idle host =>
      have henqueue : s.enqueue submission =
          (s.retire [.unanswered submission], .error .notRunning) := by
        rw [enqueue, hlink]
      have happly : s.apply (.enqueue submission) = s.retire [.unanswered submission] :=
        congrArg Prod.fst henqueue
      have houtcome : s.outcome (.enqueue submission) = .error .notRunning := by
        rw [outcome, henqueue]
        rfl
      exact reports_of_refusal hsound happly houtcome rfl
  | live x =>
      have henqueue : s.enqueue submission =
          ({ s with link := .live (x.enqueue submission) }, .ok ()) := by
        rw [enqueue, hlink]
      have hrunning : (s.apply (.enqueue submission)).isRunning = true := by
        rw [apply, henqueue]
        rfl
      have houtcome : s.outcome (.enqueue submission) = .ok .nothing := by
        rw [outcome, henqueue]
        rfl
      apply reports_of_gain hrunning houtcome
      rw [apply, henqueue]
      rfl

theorem reports_runPending
    (hsound : s.IsSound) :
    s.Reports .runPending ∧ (s.apply .runPending).IsSound := by
  cases hlink : s.link with
  | idle host =>
      have hpending : s.runPending = (s.retire [], .error .notRunning) := by
        rw [runPending, hlink, retire, List.append_nil]
      have happly : s.apply .runPending = s.retire [] := congrArg Prod.fst hpending
      have houtcome : s.outcome .runPending = .error .notRunning := by
        rw [outcome, hpending]
        rfl
      exact reports_of_refusal hsound happly houtcome rfl
  | live x =>
      have hpending : s.runPending = s.afterRun x.runPending := by
        rw [runPending, hlink]
      have happly : s.apply .runPending = (s.afterRun x.runPending).1 :=
        congrArg Prod.fst hpending
      have houtcome : s.outcome .runPending =
          (result x.runPending.fault).map fun _ => Gain.nothing := by
        rw [outcome, hpending]
        rfl
      apply reports_of_run hlink happly houtcome rfl
      intro fault hfault hended
      exact abandons_runPending hlink hfault hended

theorem reports_apply
    (hsound : s.IsSound) (operation : Operation) :
    s.Reports operation ∧ (s.apply operation).IsSound := by
  cases operation with
  | start => exact reports_start hsound
  | stop => exact reports_stop hsound
  | step request =>
      have happly : s.apply (.step request) = s.retire [] := by
        rw [retire, List.append_nil]
        rfl
      have houtcome : s.outcome (.step request) = .error (.unsupported request) := rfl
      exact reports_of_refusal hsound happly houtcome rfl
  | query query => exact reports_query hsound query
  | execute submission => exact reports_execute hsound submission
  | enqueue submission => exact reports_enqueue hsound submission
  | runPending => exact reports_runPending hsound

theorem isSound_after
    (hsound : s.IsSound) (operations : List Operation) :
    (s.after operations).IsSound := by
  induction operations generalizing s with
  | nil => exact hsound
  | cons operation operations ih => exact ih (reports_apply hsound operation).2

/-- Whatever was done before and whatever the interpreter says, the outcome of an
operation tells what has become of the session. -/
theorem changes_as_reported
    (config : Config) (module : Option Text) (host : η) (operations : List Operation)
    (operation : Operation) :
    let s := (Session.new config module host).after operations
    s.Reports operation ∧
      (s.isRunning = false → s.breakpoints = .empty) ∧
      (s.outcome .start = .ok .nothing →
        (s.apply .start).isRunning = true ∧
          (s.apply .start).breakpoints = .empty ∧
          (s.apply .start).queued = [] ∧
          (s.apply .start).cursor = ⟨0, none⟩) := by
  intro s
  have hsound : s.IsSound := isSound_after (fun _ => rfl) operations
  refine ⟨(reports_apply hsound operation).1, hsound, ?_⟩
  intro hstarted
  have hbegins := begins s
  have happly : s.apply .start = s.start.1 := rfl
  have houtcome : s.outcome .start = s.start.2.map fun _ => Gain.nothing := rfl
  generalize s.start = step at hbegins happly houtcome
  rw [houtcome] at hstarted
  rw [happly]
  cases hbegins with
  | refused => cases hstarted
  | unread => cases hstarted
  | failed => cases hstarted
  | started hidle hlaunch hreader hpeer hqueue =>
      exact ⟨rfl, hsound (isRunning_of_idle hidle), hqueue, rfl⟩

end Session
end GhciBridge
