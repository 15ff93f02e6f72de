import GhciBridge.Proofs.Session.Outcome

/-!
# Hosts that keep more

A host may keep more than it needs for what it says, such as a record of what happened
to it.  A session cannot tell: with the record forgotten it is the session with the
host that does not keep it, after every operation, and each operation comes to the
same.
-/

namespace GhciBridge

/-- A map of hosts that forgets nothing of what a host says or writes. -/
structure Forgetting (ρ η : Type) [Host ρ] [Host η] where
  forget : ρ → η
  write_forget : ∀ (host : ρ) (text : Text),
    Peer.write (forget host) text =
      ((Peer.write host text).1, forget (Peer.write host text).2)
  reap_forget : ∀ host : ρ, Peer.reap (forget host) = forget (Peer.reap host)
  launch_forget : ∀ (host : ρ) (path : Text) (arguments : List Text),
    Host.launch (forget host) path arguments =
      (Host.launch host path arguments).map fun launched => (launched.1, forget launched.2)
  canRead_forget : ∀ host : ρ, Host.canRead (forget host) = Host.canRead host
  abandon_forget : ∀ host : ρ, Host.abandon (forget host) = forget (Host.abandon host)

/-!
## Exchanges
-/

namespace Exchange

variable {ρ η : Type}

/-- The exchange with another peer in the place of its own. -/
def map (f : ρ → η) (x : Exchange ρ) : Exchange η :=
  { peer := f x.peer
    feed := x.feed
    channel := x.channel
    connected := x.connected
    closed := x.closed
    queue := x.queue
    patience := x.patience }

theorem receive_map
    (f : ρ → η) (x : Exchange ρ) (asked : Text) (patience : Nat) :
    (x.map f).receive asked patience =
      ((x.receive asked patience).1.map f, (x.receive asked patience).2) := by
  have hchannel : (x.map f).channel = x.channel := rfl
  have hconnected : (x.map f).connected = x.connected := rfl
  unfold receive
  rw [hchannel, hconnected]
  split
  · rfl
  · rfl
  · split
    · rfl
    · rfl

variable [Host ρ] [Host η]

theorem writeLine_map
    (f : Forgetting ρ η) (x : Exchange ρ) (line : Text) :
    (x.map f.forget).writeLine line =
      ((x.writeLine line).1.map f.forget, (x.writeLine line).2) := by
  have hwrite := f.write_forget x.peer (line ++ ['\n'])
  rcases hsaid : Peer.write x.peer (line ++ ['\n']) with ⟨speech, peer⟩
  rw [hsaid] at hwrite
  have hwrite' : Peer.write (x.map f.forget).peer (line ++ ['\n']) =
      (speech, f.forget peer) := hwrite
  rw [writeLine, writeLine, hsaid, hwrite']
  cases speech with
  | none => rfl
  | some speech => rfl

theorem sendLine_map
    (f : Forgetting ρ η) (x : Exchange ρ) (text : Text) :
    (x.map f.forget).sendLine text =
      ((x.sendLine text).1.map f.forget, (x.sendLine text).2) := by
  simp only [sendLine]
  split
  · exact writeLine_map f x (Text.trim text)
  · rfl

theorem perform_map
    (f : Forgetting ρ η) (x : Exchange ρ) (command : Command) :
    (x.map f.forget).perform command =
      ⟨(x.perform command).exchange.map f.forget, (x.perform command).answer,
        (x.perform command).fault⟩ := by
  have hclosed : (x.map f.forget).closed = x.closed := rfl
  unfold perform
  rw [hclosed, writeLine_map]
  split
  · rfl
  · split
    · rfl
    · rcases x.writeLine command.line with ⟨y, fault⟩
      cases fault with
      | some fault => rfl
      | none =>
          have hpatience : (y.map f.forget).patience = y.patience := rfl
          simp only
          rw [hpatience, receive_map]
          rcases y.receive command.line y.patience with ⟨z, result⟩
          cases result with
          | error fault => rfl
          | ok lines => rfl

/-- A run with another peer in the place of its own. -/
def Run.map (f : ρ → η) (run : Run ρ) : Run η :=
  ⟨run.exchange.map f, run.retired, run.fault⟩

theorem execute_map
    (f : Forgetting ρ η) (x : Exchange ρ) (submission : Submission) :
    (x.map f.forget).execute submission = (x.execute submission).map f.forget := by
  rw [execute, perform_map]
  rfl

theorem runAll_map
    (f : Forgetting ρ η) (waiting : List Submission) (x : Exchange ρ) :
    runAll waiting (x.map f.forget) = (runAll waiting x).map f.forget := by
  induction waiting generalizing x with
  | nil => rfl
  | cons submission waiting ih =>
      rw [runAll, runAll, perform_map]
      cases hfault : (x.perform submission.command).fault with
      | none =>
          simp only
          rw [ih]
          rfl
      | some fault =>
          simp only
          split
          · rfl
          · rfl

end Exchange

/-!
## Sessions
-/

def Link.map {ρ η : Type} (f : ρ → η) : Link ρ → Link η
  | .idle host => .idle (f host)
  | .live x => .live (x.map f)

namespace Session

variable {ρ η : Type}

/-- The session with another host in the place of its own. -/
def map (f : ρ → η) (s : Session ρ) : Session η :=
  { config := s.config
    module := s.module
    link := s.link.map f
    breakpoints := s.breakpoints
    cursor := s.cursor
    retired := s.retired }

/-- What an operation leaves and comes to, with another host in the place of its own. -/
def Step.map {α : Type} (f : ρ → η) (step : Step ρ α) : Step η α :=
  (step.1.map f, step.2)

theorem isRunning_map
    (f : ρ → η) (s : Session ρ) :
    (s.map f).isRunning = s.isRunning := by
  rcases s with ⟨config, module, link, breakpoints, cursor, retired⟩
  cases link with
  | idle host => rfl
  | live x => rfl

variable [Host ρ] [Host η]

theorem shutdown_map
    (f : Forgetting ρ η) (x : Exchange ρ) :
    shutdown (x.map f.forget) = ((shutdown x).1, f.forget (shutdown x).2) := by
  have hpending : (x.map f.forget).failPending = x.failPending.map f.forget := rfl
  have hsend := Exchange.sendLine_map f x.failPending.exchange Interpreter.quit
  unfold shutdown
  rw [hpending]
  simp only [Exchange.Run.map, hsend]
  exact congrArg (Prod.mk _) (f.reap_forget _)

theorem stop_map
    (f : Forgetting ρ η) (s : Session ρ) :
    (s.map f.forget).stop = s.stop.map f.forget := by
  rcases s with ⟨config, module, link, breakpoints, cursor, retired⟩
  cases link with
  | idle host => rfl
  | live x =>
      simp only [stop, map, Link.map, shutdown_map]
      rfl

theorem settle_map
    (f : Forgetting ρ η) (s : Session ρ) (x : Exchange ρ) (fault : Option Fault) :
    (s.map f.forget).settle (x.map f.forget) fault = (s.settle x fault).map f.forget := by
  cases fault with
  | none => rfl
  | some fault =>
      simp only [settle]
      split
      · exact stop_map f { s with link := .live x }
      · rfl

theorem afterRun_map
    (f : Forgetting ρ η) (s : Session ρ) (run : Exchange.Run ρ) :
    (s.map f.forget).afterRun (run.map f.forget) = (s.afterRun run).map f.forget :=
  congrArg (fun t => (t, result run.fault))
    (settle_map f (s.retire run.retired) run.exchange run.fault)

theorem ask_map
    (f : Forgetting ρ η) (s : Session ρ) (command : Command) :
    (s.map f.forget).ask command = (s.ask command).map f.forget := by
  cases hlink : s.link with
  | idle host =>
      have hlink' : (s.map f.forget).link = .idle (f.forget host) :=
        congrArg (Link.map f.forget) hlink
      rw [ask, ask, hlink, hlink']
      rfl
  | live x =>
      have hlink' : (s.map f.forget).link = .live (x.map f.forget) :=
        congrArg (Link.map f.forget) hlink
      rw [ask, ask, hlink, hlink']
      simp only [Exchange.perform_map, settle_map]
      rfl

theorem execute_map
    (f : Forgetting ρ η) (s : Session ρ) (submission : Submission) :
    (s.map f.forget).execute submission = (s.execute submission).map f.forget := by
  rcases s with ⟨config, module, link, breakpoints, cursor, retired⟩
  cases link with
  | idle host => rfl
  | live x =>
      have hrun := afterRun_map f ⟨config, module, .live x, breakpoints, cursor, retired⟩
        (x.execute submission)
      rw [← Exchange.execute_map] at hrun
      exact hrun

theorem enqueue_map
    (f : Forgetting ρ η) (s : Session ρ) (submission : Submission) :
    (s.map f.forget).enqueue submission = (s.enqueue submission).map f.forget := by
  rcases s with ⟨config, module, link, breakpoints, cursor, retired⟩
  cases link with
  | idle host => rfl
  | live x => rfl

theorem runPending_map
    (f : Forgetting ρ η) (s : Session ρ) :
    (s.map f.forget).runPending = s.runPending.map f.forget := by
  rcases s with ⟨config, module, link, breakpoints, cursor, retired⟩
  cases link with
  | idle host => rfl
  | live x =>
      have hrun := afterRun_map f ⟨config, module, .live x, breakpoints, cursor, retired⟩
        x.runPending
      rw [Exchange.runPending, ← Exchange.runAll_map] at hrun
      exact hrun

theorem query_map
    (f : Forgetting ρ η) (s : Session ρ) (query : Query) :
    (s.map f.forget).query query = (s.query query).map f.forget ∧
      (s.map f.forget).queryOutcome query = s.queryOutcome query := by
  -- each query takes the answer to its command apart in a way of its own
  cases query with
  | setBreakpoint module line =>
      simp only [Session.query, queryOutcome, setBreakpoint, ask_map]
      rcases s.ask (.setBreakpoint module line) with ⟨t, fault | _ | answer⟩
      · exact ⟨rfl, rfl⟩
      · exact ⟨rfl, rfl⟩
      · cases answer with
        | _ => exact ⟨rfl, rfl⟩
  | removeBreakpoint module line =>
      have hbreakpoints : (s.map f.forget).breakpoints = s.breakpoints := rfl
      simp only [Session.query, queryOutcome, removeBreakpoint, hbreakpoints, ask_map]
      cases s.breakpoints.find? (module, line) with
      | none => exact ⟨rfl, rfl⟩
      | some point =>
          simp only
          rcases s.ask (.deleteBreakpoint point.number) with ⟨t, fault | _ | answer⟩
          all_goals exact ⟨rfl, rfl⟩
  | trace expression =>
      simp only [Session.query, queryOutcome, trace, ask_map]
      rcases s.ask (.trace expression) with ⟨t, fault | _ | answer⟩
      · exact ⟨rfl, rfl⟩
      · exact ⟨rfl, rfl⟩
      · cases answer with
        | _ => exact ⟨rfl, rfl⟩
  | typeOf expression =>
      simp only [Session.query, queryOutcome, typeOf, ask_map]
      rcases s.ask (.typeOf expression) with ⟨t, fault | _ | answer⟩
      · exact ⟨rfl, rfl⟩
      · exact ⟨rfl, rfl⟩
      · cases answer with
        | _ => exact ⟨rfl, rfl⟩
  | evaluate expression typeName =>
      have hconfig : (s.map f.forget).config = s.config := rfl
      simp only [Session.query, queryOutcome, evaluate, hconfig, ask_map]
      rcases s.ask (.evaluate s.config.printer expression) with ⟨t, fault | answer⟩
      all_goals exact ⟨rfl, rfl⟩
  | history =>
      simp only [Session.query, queryOutcome, history, ask_map]
      rcases s.ask .history with ⟨t, fault | _ | answer⟩
      · exact ⟨rfl, rfl⟩
      · exact ⟨rfl, rfl⟩
      · cases answer with
        | _ => exact ⟨rfl, rfl⟩
  | bindings =>
      simp only [Session.query, queryOutcome, bindings, ask_map]
      rcases s.ask .bindings with ⟨t, fault | _ | answer⟩
      · exact ⟨rfl, rfl⟩
      · exact ⟨rfl, rfl⟩
      · cases answer with
        | _ => exact ⟨rfl, rfl⟩
  | force expression =>
      simp only [Session.query, queryOutcome, force, ask_map]
      rcases s.ask (.force expression) with ⟨t, fault | _ | answer⟩
      · exact ⟨rfl, rfl⟩
      · exact ⟨rfl, rfl⟩
      · cases answer with
        | _ => exact ⟨rfl, rfl⟩
  | move direction =>
      have hcursor : (s.map f.forget).cursor = s.cursor := rfl
      simp only [Session.query, queryOutcome, move, hcursor, ask_map]
      rcases s.ask (.move direction (some s.cursor)) with ⟨t, fault | _ | answer⟩
      · exact ⟨rfl, rfl⟩
      · exact ⟨rfl, rfl⟩
      · cases answer with
        | _ => exact ⟨rfl, rfl⟩
  | load path =>
      simp only [Session.query, queryOutcome, load, ask_map]
      rcases s.ask (.load (Text.trim path)) with ⟨t, fault | _ | answer⟩
      all_goals exact ⟨rfl, rfl⟩
  | raw text =>
      simp only [Session.query, queryOutcome, raw, ask_map]
      rcases s.ask (.raw text) with ⟨t, fault | _ | answer⟩
      all_goals exact ⟨rfl, rfl⟩

theorem installPrompt_map
    (f : Forgetting ρ η) (config : Config) (x : Exchange ρ) :
    installPrompt config (x.map f.forget) =
      ((installPrompt config x).1.map f.forget, (installPrompt config x).2) := by
  unfold installPrompt
  rw [Exchange.sendLine_map]
  rcases x.sendLine config.promptCommand with ⟨y, fault⟩
  cases fault with
  | some fault => rfl
  | none =>
      simp only [Exchange.waitForPrompt, Exchange.receive_map]
      rcases y.receive Exchange.startup config.startupTimeout with ⟨z, result⟩
      cases result with
      | error fault => rfl
      | ok lines => rfl

theorem start_map
    (f : Forgetting ρ η) (s : Session ρ) :
    (s.map f.forget).start = s.start.map f.forget := by
  rcases s with ⟨config, module, link, breakpoints, cursor, retired⟩
  cases link with
  | live x => rfl
  | idle host =>
      have hlaunch := f.launch_forget host config.ghciPath (config.ghciArgs ++ module.toList)
      simp only [start, map, Link.map]
      cases config.flaw? with
      | some flaw => rfl
      | none =>
          simp only [hlaunch]
          cases Host.launch host config.ghciPath (config.ghciArgs ++ module.toList) with
          | none => rfl
          | some launched =>
              rcases launched with ⟨speech, launched⟩
              have hgreet : greet config (f.forget launched) speech =
                  (greet config launched speech).map f.forget := rfl
              simp only [Option.map_some, hgreet, installPrompt_map, f.canRead_forget,
                f.abandon_forget]
              rcases installPrompt config (greet config launched speech) with ⟨x, fault⟩
              cases Host.canRead launched with
              | false => rfl
              | true =>
                  cases fault with
                  | none => rfl
                  | some fault =>
                      simp only [shutdown_map]
                      rfl

theorem apply_map
    (f : Forgetting ρ η) (s : Session ρ) (operation : Operation) :
    (s.map f.forget).apply operation = (s.apply operation).map f.forget ∧
      (s.map f.forget).outcome operation = s.outcome operation := by
  cases operation with
  | start =>
      rw [apply, apply, outcome, outcome, start_map]
      exact ⟨rfl, rfl⟩
  | stop => exact ⟨stop_map f s, rfl⟩
  | step request => exact ⟨rfl, rfl⟩
  | query query => exact query_map f s query
  | execute submission =>
      rw [apply, apply, outcome, outcome, execute_map]
      exact ⟨rfl, rfl⟩
  | enqueue submission =>
      rw [apply, apply, outcome, outcome, enqueue_map]
      exact ⟨rfl, rfl⟩
  | runPending =>
      rw [apply, apply, outcome, outcome, runPending_map]
      exact ⟨rfl, rfl⟩

theorem after_map
    (f : Forgetting ρ η) (s : Session ρ) (operations : List Operation) :
    (s.map f.forget).after operations = (s.after operations).map f.forget := by
  induction operations generalizing s with
  | nil => rfl
  | cons operation operations ih => rw [after, after, (apply_map f s operation).1, ih]

end Session
end GhciBridge
