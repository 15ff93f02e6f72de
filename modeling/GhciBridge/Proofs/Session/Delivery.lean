import GhciBridge.Proofs.Session.Custody

/-!
# No submitted command is forgotten

Every command that is handed over is retired once by the time the session is
dropped.  The queue ends with its session, so a command that was left in it is not
written to an interpreter that is started later.
-/

namespace GhciBridge
namespace Session

variable {η : Type}

/-- The line that tells an interpreter to quit, if a session ends. -/
def parting (s t : Session η) : List Text :=
  if s.isRunning && !t.isRunning then [inputLine Interpreter.quit] else []

theorem parting_of_running
    {s t : Session η} (hrunning : t.isRunning = true) :
    s.parting t = [] := by
  rw [parting, hrunning, Bool.not_true, Bool.and_false]
  rfl

theorem parting_self
    (s : Session η) :
    s.parting s = [] := by
  rw [parting, Bool.and_not_self]
  rfl

theorem host_of_idle
    {s : Session η} {host : η} (hlink : s.link = .idle host) :
    s.link.host = host := by
  rw [hlink]
  rfl

theorem host_of_live
    {s : Session η} {x : Exchange η} (hlink : s.link = .live x) :
    s.link.host = x.peer := by
  rw [hlink]
  rfl

variable [Host η]

/-- A host whose interpreter is waited for, if a session ends. -/
def leaving (s t : Session η) (host : η) : η :=
  if s.isRunning && !t.isRunning then Peer.reap host else host

theorem leaving_of_running
    {s t : Session η} (hrunning : t.isRunning = true) (host : η) :
    s.leaving t host = host := by
  rw [leaving, hrunning, Bool.not_true, Bool.and_false]
  rfl

theorem leaving_self
    (s : Session η) (host : η) :
    s.leaving s host = host := by
  rw [leaving, Bool.and_not_self]
  rfl

theorem leaving_of_idle
    {s : Session η} (hidle : s.isRunning = false) (t : Session η) (host : η) :
    s.leaving t host = host := by
  rw [leaving, hidle, Bool.false_and]
  rfl

/-!
## What is written
-/

/-- The submissions whose lines an operation writes. -/
def sent (s : Session η) (operation : Operation) : List Submission :=
  match s.link with
  | .idle _ => []
  | .live x =>
      ((s.ran operation).map Retirement.submission).filter fun submission =>
        x.writes submission.command

/-- The submissions whose lines are written by operations one after the other. -/
def sentAlong (s : Session η) : List Operation → List Submission
  | [] => []
  | operation :: operations => s.sent operation ++ (s.apply operation).sentAlong operations

theorem sent_sublist
    (s : Session η) (operation : Operation) :
    (s.sent operation).Sublist ((s.ran operation).map Retirement.submission) := by
  cases hlink : s.link with
  | idle host =>
      rw [sent, hlink]
      exact List.nil_sublist _
  | live x =>
      rw [sent, hlink]
      exact List.filter_sublist

theorem sent_append_queued
    (s : Session η) (operation : Operation) :
    (s.sent operation ++ (s.apply operation).queued).Subperm
      (s.queued ++ operation.handed?.toList) := by
  have hledger := ledger_apply s operation
  rcases exists_retired_apply s operation with ⟨behind, hretired⟩
  rw [ledger, ledger, hretired, List.map_append, List.append_assoc, List.append_assoc,
    List.perm_append_left_iff, List.map_append] at hledger
  have hsent : (s.sent operation).Sublist
      ((s.ran operation).map Retirement.submission ++ behind.map Retirement.submission) :=
    (sent_sublist s operation).trans (List.sublist_append_left _ _)
  exact (hsent.append_right _).subperm.trans hledger.subperm

/-- Only what is queued or handed over in the meantime is written. -/
theorem sentAlong_subperm
    (s : Session η) (operations : List Operation) :
    (s.sentAlong operations).Subperm
      (s.queued ++ operations.filterMap Operation.handed?) := by
  induction operations generalizing s with
  | nil => exact List.nil_subperm
  | cons operation operations ih =>
      rw [sentAlong, filterMap_handed_cons, ← List.append_assoc]
      have hrest := (List.subperm_append_left (s.sent operation)).mpr (ih (s.apply operation))
      have hfirst := (List.subperm_append_right (operations.filterMap Operation.handed?)).mpr
        (sent_append_queued s operation)
      rw [List.append_assoc] at hfirst
      exact hrest.trans hfirst

/-- The line of a query's own command, if it is written. -/
def ownLines (s : Session η) (x : Exchange η) : Operation → List Text
  | .query query =>
      ((s.command? query).toList.filter x.writes).map fun command => inputLine command.payload
  | _ => []

/-- The lines that an operation writes to the interpreter that runs. -/
def dictated (s : Session η) (operation : Operation) : List Text :=
  match s.link with
  | .idle _ => []
  | .live x =>
      s.ownLines x operation ++
        ((s.sent operation).map fun submission => inputLine submission.command.payload) ++
          s.parting (s.apply operation)

/-- What an operation hands to the host. -/
inductive Feeds (s : Session η) (operation : Operation) : Prop where
  | dictated
      (hreader : s.lacksReader operation = false)
      (hhost : (s.apply operation).link.host =
        s.leaving (s.apply operation) (Peer.fed s.link.host (s.dictated operation)))
  /-- An interpreter is started.  It may have to be ended at once. -/
  | launched {launched : η} {speech : Speech}
      (hstart : operation = .start)
      (hidle : s.isRunning = false)
      (hlaunch : Host.launch s.link.host s.config.ghciPath
        (s.config.ghciArgs ++ s.module.toList) = some (speech, launched))
      (hreader : s.lacksReader operation = false)
      (hhost : (s.apply operation).link.host = Peer.fed launched (promptLines s.config) ∨
        (s.apply operation).link.host =
          Peer.reap (Peer.fed launched (promptLines s.config ++ [inputLine Interpreter.quit])))
  /-- An interpreter is started, and handed nothing. -/
  | unread {launched : η} {speech : Speech}
      (hstart : operation = .start)
      (hidle : s.isRunning = false)
      (hlaunch : Host.launch s.link.host s.config.ghciPath
        (s.config.ghciArgs ++ s.module.toList) = some (speech, launched))
      (hreader : s.lacksReader operation = true)
      (hhost : (s.apply operation).link.host = Host.abandon launched)

theorem host_afterRun
    {s : Session η} {x : Exchange η} (hlink : s.link = .live x) (run : Exchange.Run η) :
    (s.afterRun run).1.link.host =
      s.leaving (s.afterRun run).1
        (Peer.fed run.exchange.peer (s.parting (s.afterRun run).1)) := by
  cases hfatal : run.isFatal with
  | false =>
      rw [afterRun_of_mild hfatal, leaving, parting, isRunning_of_live hlink]
      rfl
  | true =>
      rw [afterRun_of_fatal hfatal, leaving, parting, isRunning_of_live hlink]
      exact host_shutdown_eq run.exchange

theorem host_ask
    {s : Session η} {x : Exchange η} (hlink : s.link = .live x) (command : Command) :
    (s.ask command).1.link.host =
      s.leaving (s.ask command).1
        (Peer.fed s.link.host
          ((([command].filter x.writes).map fun c => inputLine c.payload) ++
            s.parting (s.ask command).1)) := by
  have hpeer := Exchange.peer_perform x command
  rw [Peer.fed_append, host_of_live hlink, ← hpeer]
  cases hfault : (x.perform command).fault with
  | none =>
      rw [ask_of_none hlink hfault, leaving_of_running rfl, parting_of_running rfl]
      rfl
  | some fault =>
      rw [ask_of_fault hlink hfault]
      exact host_afterRun hlink (consult x command)

theorem feeds_start
    (s : Session η) :
    s.Feeds .start := by
  have hbegins := begins s
  have happly : s.apply .start = s.start.1 := rfl
  generalize s.start = step at hbegins happly
  cases hbegins with
  | refused hreader =>
      refine .dictated hreader ?_
      rw [dictated, happly, leaving_self]
      cases hlink : s.link with
      | idle host => rfl
      | live x =>
          rw [sent, ran, hlink, parting_self]
          rfl
  | @unread host launched speech hidle hlaunch hreader =>
      rw [← host_of_idle hidle] at hlaunch
      exact .unread rfl (isRunning_of_idle hidle) hlaunch hreader (congrArg (·.link.host) happly)
  | @failed host launched speech fault hidle hlaunch hreader =>
      rw [← host_of_idle hidle] at hlaunch
      exact .launched rfl (isRunning_of_idle hidle) hlaunch hreader
        (.inr (congrArg (·.link.host) happly))
  | @started host launched speech x hidle hlaunch hreader hpeer =>
      rw [← host_of_idle hidle] at hlaunch
      refine .launched rfl (isRunning_of_idle hidle) hlaunch hreader (.inl ?_)
      rw [happly]
      exact hpeer

theorem sent_of_live
    {s : Session η} {x : Exchange η} (hlink : s.link = .live x) (operation : Operation) :
    (s.sent operation).map (fun submission => inputLine submission.command.payload) =
      (((s.ran operation).map fun retirement => retirement.submission.command).filter
        x.writes).map fun command => inputLine command.payload := by
  rw [sent, hlink]
  simp only [List.filter_map, List.map_map]
  rfl

theorem feeds_of_idle
    {s : Session η} {operation : Operation} (hreader : s.lacksReader operation = false)
    (hidle : s.isRunning = false) (happly : (s.apply operation).link = s.link) :
    s.Feeds operation := by
  cases hlink : s.link with
  | idle host =>
      refine .dictated hreader ?_
      rw [leaving_of_idle hidle, happly, dictated, hlink]
      rfl
  | live x =>
      rw [isRunning_of_live hlink] at hidle
      cases hidle

/-- An operation that runs nothing and leaves the interpreter alone. -/
theorem feeds_of_silent
    {s : Session η} {x : Exchange η} {operation : Operation}
    (hreader : s.lacksReader operation = false) (hlink : s.link = .live x)
    (hran : s.ran operation = []) (hown : s.ownLines x operation = [])
    (hgoing : (s.apply operation).isRunning = true)
    (hhost : (s.apply operation).link.host = s.link.host) :
    s.Feeds operation := by
  refine .dictated hreader ?_
  have hdictated : s.dictated operation = [] := by
    rw [dictated, hlink]
    simp only
    rw [hown, sent_of_live hlink, hran, parting_of_running hgoing]
    rfl
  rw [hdictated, hhost, leaving_of_running hgoing]
  rfl

theorem feeds_query
    (s : Session η) (query : Query) :
    s.Feeds (.query query) := by
  have hagrees := agrees_query s query
  have hlink' : (s.apply (.query query)).link = (s.asked (s.command? query)).link := hagrees.link
  cases hlink : s.link with
  | idle host =>
      have hasked : s.asked (s.command? query) = s := by
        cases s.command? query with
        | none => rfl
        | some command => rw [asked, ask_of_idle hlink]
      apply feeds_of_idle rfl (isRunning_of_idle hlink)
      rw [hlink', hasked]
  | live x =>
      have hran : s.ran (.query query) = [] := by
        rw [ran, hlink]
      cases hcommand : s.command? query with
      | none =>
          rw [hcommand, asked] at hlink'
          apply feeds_of_silent rfl hlink hran
          · rw [ownLines, hcommand]
            rfl
          · rw [isRunning, hlink', ← isRunning, isRunning_of_live hlink]
          · rw [hlink']
      | some command =>
          rw [hcommand, asked] at hlink'
          have hrunning : (s.apply (.query query)).isRunning = (s.ask command).1.isRunning :=
            congrArg Link.isLive hlink'
          refine .dictated rfl ?_
          rw [hlink', host_ask hlink, dictated, hlink, leaving, leaving, hrunning]
          simp only
          rw [sent_of_live hlink, hran, ownLines, hcommand, parting, parting, hrunning]
          simp

theorem feeds_run
    {s : Session η} {x : Exchange η} {operation : Operation}
    (hreader : s.lacksReader operation = false) (hlink : s.link = .live x)
    (run : Exchange.Run η) (happly : s.apply operation = (s.afterRun run).1)
    (hown : s.ownLines x operation = [])
    (hpeer : run.exchange.peer =
      Peer.fed x.peer
        ((((s.ran operation).map fun retirement => retirement.submission.command).filter
          x.writes).map fun command => inputLine command.payload)) :
    s.Feeds operation := by
  refine .dictated hreader ?_
  rw [happly, host_afterRun hlink, hpeer, ← sent_of_live hlink, ← Peer.fed_append,
    host_of_live hlink, dictated, hlink, happly]
  simp only
  rw [hown, List.nil_append]

theorem feeds
    (s : Session η) (operation : Operation) :
    s.Feeds operation := by
  cases operation with
  | start => exact feeds_start s
  | query query => exact feeds_query s query
  | step request =>
      cases hlink : s.link with
      | idle host => exact feeds_of_idle rfl (isRunning_of_idle hlink) rfl
      | live x =>
          refine feeds_of_silent rfl hlink ?_ rfl (isRunning_of_live hlink) rfl
          rw [ran, hlink]
  | stop =>
      cases hlink : s.link with
      | idle host =>
          have hstays : s.stop = s := by
            rw [stop, hlink]
          exact feeds_of_idle rfl (isRunning_of_idle hlink) (congrArg link hstays)
      | live x =>
          have hran : s.ran .stop = [] := by
            rw [ran, hlink]
          refine .dictated rfl ?_
          rw [dictated, hlink]
          simp only
          rw [sent_of_live hlink, hran, apply, stop_eq hlink, leaving, parting,
            isRunning_of_live hlink]
          exact host_shutdown_eq x
  | execute submission =>
      cases hlink : s.link with
      | idle host =>
          apply feeds_of_idle rfl (isRunning_of_idle hlink)
          rw [apply, execute, hlink]
          exact hlink
      | live x =>
          refine feeds_run rfl hlink (x.execute submission) ?_ rfl ?_
          · rw [apply, execute, hlink]
          · rw [ran, hlink]
            exact Exchange.peer_perform x submission.command
  | enqueue submission =>
      cases hlink : s.link with
      | idle host =>
          apply feeds_of_idle rfl (isRunning_of_idle hlink)
          rw [apply, enqueue, hlink]
          exact hlink
      | live x =>
          have happly : (s.apply (.enqueue submission)).link = .live (x.enqueue submission) := by
            rw [apply, enqueue, hlink]
          refine feeds_of_silent rfl hlink ?_ rfl (isRunning_of_live happly) ?_
          · rw [ran, hlink]
          · rw [happly, hlink]
            rfl
  | runPending =>
      cases hlink : s.link with
      | idle host =>
          apply feeds_of_idle rfl (isRunning_of_idle hlink)
          rw [apply, runPending, hlink]
          exact hlink
      | live x =>
          refine feeds_run rfl hlink x.runPending ?_ rfl ?_
          · rw [apply, runPending, hlink]
          · rw [ran, hlink]
            have hpeer := Exchange.peer_runAll x.queue x
            rw [Exchange.reached] at hpeer
            simp only [List.map_map]
            exact hpeer

/-!
## The end of a session
-/

/-- What becomes of the submitted commands when an operation ends a session. -/
structure Closes (s : Session η) (operation : Operation) : Prop where
  /-- Some were run, and the others were left in the queue. -/
  split :
    ((s.ran operation).map Retirement.submission ++ s.left operation).Perm
      (s.queued ++ operation.handed?.toList)
  retired :
    (s.apply operation).retired =
      s.retired ++ s.ran operation ++ (s.left operation).map .unanswered
  queued : (s.apply operation).queued = []
  /-- A later session is sent nothing but what is handed over from now on. -/
  forgets :
    ∀ later,
      ((s.apply operation).sentAlong later).Subperm (later.filterMap Operation.handed?)

theorem closes
    {s : Session η} {operation : Operation} (hrunning : s.isRunning = true)
    (hended : (s.apply operation).isRunning = false) :
    s.Closes operation := by
  have hqueued := queued_of_idle hended
  constructor
  · exact ran_append_left hrunning operation
  · exact retired_of_ended hrunning hended
  · exact hqueued
  · intro later
    have hsent := sentAlong_subperm (s.apply operation) later
    rw [hqueued] at hsent
    exact hsent

/-- Whatever was done and whatever the interpreter said, by the drop of a session
each submission was retired as often as it was handed over. -/
theorem no_command_forgotten
    (config : Config) (module : Option Text) (host : η) (operations : List Operation) :
    let s := (Session.new config module host).after operations
    ((s.stop.retired.map Retirement.submission).Perm (operations.filterMap Operation.handed?) ∧
        s.stop.isRunning = false ∧ s.stop.queued = []) ∧
      (∀ submission, s.isRunning = false →
        (s.apply (.execute submission)).retired = s.retired ++ [.unanswered submission] ∧
          (s.apply (.enqueue submission)).retired = s.retired ++ [.unanswered submission]) ∧
      ∀ operation,
        s.Feeds operation ∧
          (s.isRunning = true → (s.apply operation).isRunning = false → s.Closes operation) := by
  intro s
  have hstopped : s.stop.isRunning = false := by
    cases hlink : s.link with
    | idle host =>
        rw [stop, hlink]
        exact isRunning_of_idle hlink
    | live x =>
        rw [stop_eq hlink]
        rfl
  have hqueued : s.stop.queued = [] := queued_of_idle hstopped
  refine ⟨⟨?_, hstopped, hqueued⟩, ?_, ?_⟩
  · have hledger := ledger_after (Session.new config module host) operations
    have hdropped : s.stop.ledger.Perm (s.ledger ++ []) := ledger_apply s .stop
    rw [ledger, hqueued, List.append_nil, List.append_nil] at hdropped
    exact hdropped.trans hledger
  · intro submission hidle
    constructor
    · exact retired_of_idle hidle (.execute submission)
    · exact retired_of_idle hidle (.enqueue submission)
  · intro operation
    exact ⟨feeds s operation, closes⟩

end Session
end GhciBridge
