import GhciBridge.Proofs.Session.Outcome
import GhciBridge.Proofs.Session.Written

/-!
# Answers are paired with their commands

Nothing numbers the answers of an interpreter.  They still belong to their own
commands, over whole sessions and from one session to the next: when a session
writes a command no answer is left over, whatever was refused, failed, stopped or
started before.
-/

namespace GhciBridge

/-!
## Sessions
-/

namespace Session

variable {config : Config} {script : Script} {s : Session Interpreter}

/-- A session with the interpreter of a script whose exchange, if it has one, is
level with it.  No command of the queue is the line that quits. -/
structure InDialogue (config : Config) (script : Script) (s : Session Interpreter) : Prop where
  configured : s.config = config
  scripted : s.link.host.script = script
  live : ∀ x, s.link = .live x →
    IsMark script.sentinel ∧ x.IsLevel script.sentinel ∧
      ∀ submission ∈ x.queue, submission.command.line ≠ Interpreter.quit

/-- What an operation writes comes first among its callbacks, and the other
callbacks get nothing.  The lines written follow those of the session so far, and
each callback of a written command gets what that command makes of the reply of its
number.  A new start begins to count again. -/
structure Pairing (script : Script) (s : Session Interpreter) (operation : Operation)
    (written unwritten : List Callback) : Prop where
  callbacks : s.callbacks operation = written ++ unwritten
  unanswered : Unanswered unwritten
  lines :
    (s.apply operation).link.host.commandLines =
        s.link.host.commandLines ++ written.map (fun callback => callback.command.line) ∨
      operation = .start ∧ written = [] ∧ (s.apply operation).link.host.commandLines = []
  replies :
    ∀ k callback, written[k]? = some callback →
      (Interpreter.replyTo script (s.link.host.commandLines.length + k)).Answers script.sentinel
        callback.command callback.answer

theorem Pairing.of_answered
    {operation : Operation} {written unwritten : List Callback}
    (hscript : s.link.host.script = script)
    (hcallbacks : s.callbacks operation = written ++ unwritten)
    (hnone : Unanswered unwritten)
    (hanswered : s.link.host.Answered (s.apply operation).link.host written) :
    s.Pairing script operation written unwritten := by
  subst hscript
  exact ⟨hcallbacks, hnone, .inl hanswered.lines, hanswered.replies⟩

/-!
### The end of an operation
-/

/-- Ending an operation retires commands without an answer or none at all, writes
no line of a command, and keeps the exchange only without a fatal fault. -/
theorem settle_cases
    (s : Session Interpreter) (x : Exchange Interpreter) (fault : Option Fault) :
    ∃ failed : List Retirement,
      Unanswered (failed.map Retirement.callback) ∧
      (s.settle x fault).retired = s.retired ++ failed ∧
      (s.settle x fault).config = s.config ∧
      x.peer.Answered (s.settle x fault).link.host [] ∧
      ∀ y, (s.settle x fault).link = .live y → y = x ∧ fault.any Fault.isFatal = false := by
  have hkept : ∀ t : Session Interpreter, t = { s with link := .live x } →
      t.retired = s.retired ++ [] ∧ t.config = s.config ∧ x.peer.Answered t.link.host [] ∧
        ∀ y, t.link = .live y → y = x := by
    rintro t rfl
    refine ⟨(List.append_nil _).symm, rfl, .refl _, ?_⟩
    intro y hy
    cases hy
    rfl
  cases fault with
  | none =>
      rcases hkept _ rfl with ⟨hretired, hconfig, hanswered, hlink⟩
      exact ⟨[], .nil, hretired, hconfig, hanswered, fun y hy => ⟨hlink y hy, rfl⟩⟩
  | some fault =>
      cases hfatal : fault.isFatal with
      | false =>
          have hsettle : s.settle x (some fault) = { s with link := .live x } := by
            simp [settle, hfatal]
          rcases hkept _ hsettle with ⟨hretired, hconfig, hanswered, hlink⟩
          exact ⟨[], .nil, hretired, hconfig, hanswered, fun y hy => ⟨hlink y hy, hfatal⟩⟩
      | true =>
          have hsettle : s.settle x (some fault) = { s with link := .live x }.stop := by
            simp [settle, hfatal]
          rw [hsettle]
          refine ⟨x.queue.map .unanswered, .of_submissions x.queue, rfl, rfl, ?_, ?_⟩
          · exact .of_unwritten (host_shutdown x).1 (host_shutdown x).2
          · intro y hy
            cases hy

theorem stop_of_live
    {x : Exchange Interpreter} (hlink : s.link = .live x) :
    s.stop = s.settle x (some .exited) := by
  have hsame : ({ s with link := .live x } : Session Interpreter) = s := by
    rw [← hlink]
  show s.stop = ({ s with link := .live x } : Session Interpreter).stop
  rw [hsame]

namespace InDialogue

theorem script_of_live
    {x : Exchange Interpreter} (h : s.InDialogue config script) (hlink : s.link = .live x) :
    x.peer.script = script := by
  have hscripted := h.scripted
  rw [hlink] at hscripted
  exact hscripted

theorem of_agrees
    {t : Session Interpreter} (h : s.InDialogue config script) (hagrees : s.Agrees t) :
    t.InDialogue config script := by
  refine ⟨hagrees.config.trans h.configured, ?_, ?_⟩
  · rw [hagrees.link]
    exact h.scripted
  · rw [hagrees.link]
    exact h.live

theorem settle
    {x : Exchange Interpreter} {fault : Option Fault} (hconfig : s.config = config)
    (hscript : x.peer.script = script) (hmark : IsMark script.sentinel)
    (hlevel : fault.any Fault.isFatal = false → x.IsLevel script.sentinel)
    (hquit : ∀ submission ∈ x.queue, submission.command.line ≠ Interpreter.quit) :
    (s.settle x fault).InDialogue config script := by
  rcases settle_cases s x fault with ⟨-, -, -, hconfig', hanswered, hlive⟩
  refine ⟨hconfig'.trans hconfig, hanswered.script.trans hscript, ?_⟩
  intro y hy
  rcases hlive y hy with ⟨rfl, hmild⟩
  exact ⟨hmark, hlevel hmild, hquit⟩

/-!
### Operations
-/

/-- What is to be kept by an operation, and what is to be known of it. -/
def Keeps (config : Config) (script : Script) (s : Session Interpreter)
    (operation : Operation) : Prop :=
  (s.apply operation).InDialogue config script ∧
    ∃ written unwritten, s.Pairing script operation written unwritten

theorem keeps_of_link
    {operation : Operation} {failed : List Retirement} (h : s.InDialogue config script)
    (hconfig : (s.apply operation).config = s.config) (hlink : (s.apply operation).link = s.link)
    (hretired : (s.apply operation).retired = s.retired ++ failed)
    (hfailed : Unanswered (failed.map Retirement.callback))
    (hown : Unanswered (s.ownCallback operation)) :
    Keeps config script s operation := by
  refine ⟨⟨hconfig.trans h.configured, ?_, ?_⟩, [], s.callbacks operation,
    .of_answered h.scripted rfl ?_ ?_⟩
  · rw [hlink]
    exact h.scripted
  · rw [hlink]
    exact h.live
  · rw [callbacks_of_retired hretired]
    exact .append hown hfailed
  · rw [hlink]
    exact .refl _

theorem keeps_of_eq
    {operation : Operation} (h : s.InDialogue config script) (happly : s.apply operation = s)
    (hown : s.ownCallback operation = []) :
    Keeps config script s operation := by
  have hretired : (s.apply operation).retired = s.retired ++ [] := by
    rw [happly, List.append_nil]
  apply h.keeps_of_link (by rw [happly]) (by rw [happly]) hretired .nil
  rw [hown]
  exact .nil

theorem answer_ask
    {x : Exchange Interpreter} (hlink : s.link = .live x) (command : Command) :
    (s.ask command).2.toOption.join = (x.perform command).answer := by
  rw [ask, hlink]
  cases hfault : (x.perform command).fault with
  | none => simp [hfault, Except.toOption]
  | some fault =>
      have hnone : (x.perform command).answer = none := by
        apply Exchange.answer_of_fault
        rw [hfault]
        exact Option.some_ne_none fault
      simp [hfault, hnone, Except.toOption]

theorem keeps_query
    (h : s.InDialogue config script) (hregular : script.IsRegular) {query : Query}
    (hquit : ∀ command, (Operation.query query).given? = some command →
      command.line ≠ Interpreter.quit) :
    Keeps config script s (.query query) := by
  have hagrees : (s.asked (s.command? query)).Agrees (s.apply (.query query)) :=
    agrees_query s query
  cases hcommand : s.command? query with
  | none =>
      rw [hcommand] at hagrees
      have hretired : (s.apply (.query query)).retired = s.retired ++ [] :=
        hagrees.retired.trans (List.append_nil _).symm
      apply h.keeps_of_link hagrees.config hagrees.link hretired .nil
      rw [ownCallback, hcommand]
      exact .nil
  | some command =>
      rw [hcommand] at hagrees
      cases hlink : s.link with
      | idle host =>
          have hask : s.ask command = (s, .error .notRunning) := by rw [ask, hlink]
          rw [asked, hask] at hagrees
          have hretired : (s.apply (.query query)).retired = s.retired ++ [] :=
            hagrees.retired.trans (List.append_nil _).symm
          apply h.keeps_of_link hagrees.config hagrees.link hretired .nil
          rw [ownCallback, hcommand, Option.toList_some, List.map_singleton, hask]
          exact .cons rfl .nil
      | live x =>
          have hscript := h.script_of_live hlink
          rcases h.live x hlink with ⟨hmark, hlevel, hqueue⟩
          rcases hlevel.perform hscript hregular hmark (line_ne_quit hcommand hquit) with
            ⟨written, hwritten, hanswered, hlevel'⟩
          rcases settle_cases s (x.perform command).exchange (x.perform command).fault with
            ⟨failed, hfailed, hretired, -, hsettled, -⟩
          have hask : (s.ask command).1 =
              s.settle (x.perform command).exchange (x.perform command).fault := by
            rw [ask, hlink]
          rw [asked, hask] at hagrees
          rcases Exchange.exists_unwritten hwritten hfailed with ⟨unwritten, hsplit, hnone⟩
          refine ⟨?_, written, unwritten, .of_answered h.scripted ?_ hnone ?_⟩
          · refine of_agrees
              (.settle h.configured (hanswered.script.trans hscript) hmark hlevel' ?_)
              hagrees
            rw [Exchange.queue_perform]
            exact hqueue
          · have hretired' : (s.apply (.query query)).retired = s.retired ++ failed :=
              hagrees.retired.trans hretired
            rw [callbacks_of_retired hretired', ownCallback, hcommand, Option.toList_some,
              List.map_singleton, answer_ask hlink, List.singleton_append]
            exact hsplit
          · have hlink' : (s.apply (.query query)).link =
                (s.settle (x.perform command).exchange (x.perform command).fault).link :=
              hagrees.link
            rw [hlink, hlink']
            have hwhole := hanswered.trans hsettled
            rw [List.append_nil] at hwhole
            exact hwhole

theorem keeps_run
    {operation : Operation} {x : Exchange Interpreter} {run : Exchange.Run Interpreter}
    {written unwritten : List Callback} (h : s.InDialogue config script)
    (hlink : s.link = .live x) (hrun : Exchange.IsPaired script x run written unwritten)
    (hqueue : ∀ submission ∈ run.exchange.queue, submission.command.line ≠ Interpreter.quit)
    (happly : s.apply operation = (s.afterRun run).1) (hown : s.ownCallback operation = []) :
    Keeps config script s operation := by
  have hscript := h.script_of_live hlink
  rcases h.live x hlink with ⟨hmark, -, -⟩
  rcases settle_cases (s.retire run.retired) run.exchange run.fault with
    ⟨failed, hfailed, hretired, -, hsettled, -⟩
  refine ⟨?_, written, unwritten ++ failed.map Retirement.callback,
    .of_answered h.scripted ?_ (.append hrun.unanswered hfailed) ?_⟩
  · rw [happly]
    exact .settle h.configured (hrun.answered.script.trans hscript) hmark hrun.level hqueue
  · have hretired' : (s.apply operation).retired = s.retired ++ (run.retired ++ failed) := by
      rw [happly, ← List.append_assoc]
      exact hretired
    rw [callbacks_of_retired hretired', hown, List.nil_append, List.map_append, hrun.retired,
      List.append_assoc]
  · have hwhole := hrun.answered.trans hsettled
    rw [List.append_nil] at hwhole
    rw [hlink, happly]
    exact hwhole

theorem keeps_of_idle
    {operation : Operation} {submission : Submission} (h : s.InDialogue config script)
    (happly : s.apply operation = s.retire [.unanswered submission])
    (hown : s.ownCallback operation = []) :
    Keeps config script s operation := by
  have hretired : (s.apply operation).retired = s.retired ++ [.unanswered submission] := by
    rw [happly]
    rfl
  apply h.keeps_of_link (by rw [happly]; rfl) (by rw [happly]; rfl) hretired
  · exact .of_submissions [submission]
  · rw [hown]
    exact .nil

theorem keeps_enqueue
    {x : Exchange Interpreter} {submission : Submission} (h : s.InDialogue config script)
    (hlink : s.link = .live x) (hquit : submission.command.line ≠ Interpreter.quit) :
    Keeps config script s (.enqueue submission) := by
  have happly : s.apply (.enqueue submission) = { s with link := .live (x.enqueue submission) } := by
    rw [apply, Session.enqueue, hlink]
  have hretired : (s.apply (.enqueue submission)).retired = s.retired ++ [] := by
    rw [happly, List.append_nil]
  rcases h.live x hlink with ⟨hmark, hlevel, hqueue⟩
  refine ⟨⟨?_, ?_, ?_⟩, [], [], .of_answered h.scripted ?_ .nil ?_⟩
  · rw [happly]
    exact h.configured
  · rw [happly]
    show x.peer.script = script
    exact h.script_of_live hlink
  · rw [happly]
    intro y hy
    cases hy
    refine ⟨hmark, hlevel.of_queue _, ?_⟩
    intro other hmem
    rcases List.mem_append.mp hmem with hmem | hmem
    · exact hqueue other hmem
    · rw [List.mem_singleton.mp hmem]
      exact hquit
  · rw [callbacks_of_retired hretired]
    rfl
  · rw [hlink, happly]
    exact .refl _

theorem keeps_start
    (h : s.InDialogue config script) (hregular : script.IsRegular)
    (hsentinel : script.sentinel = config.sentinel) :
    Keeps config script s .start := by
  cases hlink : s.link with
  | live x =>
      apply h.keeps_of_eq _ rfl
      rw [apply, Session.start, hlink]
  | idle i =>
      have hscript : i.script = script := by
        have hscripted := h.scripted
        rw [hlink] at hscripted
        exact hscripted
      have hsentinel' : i.script.sentinel = s.config.sentinel := by
        rw [hscript, h.configured, hsentinel]
      have hstarts := starts_start hlink hsentinel' (by rw [hscript]; exact hregular.opening)
      have happly : s.apply .start = s.start.1 := rfl
      rw [← happly] at hstarts
      generalize ht : s.apply .start = t at hstarts
      cases hstarts with
      | refused => exact h.keeps_of_eq ht rfl
      | @failed j hkept hlines =>
          have hretired : (s.apply .start).retired = s.retired ++ [] := by
            rw [ht, List.append_nil]
          refine ⟨?_, [], [], ?_, .nil, .inr ⟨rfl, rfl, ?_⟩, by simp⟩
          · rw [ht]
            refine ⟨h.configured, hkept.trans hscript, ?_⟩
            intro x hx
            cases hx
          · rw [callbacks_of_retired hretired]
            rfl
          · rw [ht]
            exact hlines
      | @started x hkept hlines hqueue hmark hlevel =>
          have hretired : (s.apply .start).retired = s.retired ++ [] := by
            rw [ht, List.append_nil]
          refine ⟨?_, [], [], ?_, .nil, .inr ⟨rfl, rfl, ?_⟩, by simp⟩
          · rw [ht]
            refine ⟨h.configured, hkept.trans hscript, ?_⟩
            intro y hy
            cases hy
            rw [h.configured, ← hsentinel] at hmark hlevel
            refine ⟨hmark, hlevel, ?_⟩
            rw [hqueue]
            simp
          · rw [callbacks_of_retired hretired]
            rfl
          · rw [ht]
            exact hlines

/-- No operation mixes up answers. -/
theorem keeps
    (h : s.InDialogue config script) (hregular : script.IsRegular)
    (hsentinel : script.sentinel = config.sentinel) {operation : Operation}
    (hquit : ∀ command, operation.given? = some command → command.line ≠ Interpreter.quit) :
    Keeps config script s operation := by
  cases operation with
  | start => exact h.keeps_start hregular hsentinel
  | step request => exact h.keeps_of_eq rfl rfl
  | query query => exact h.keeps_query hregular hquit
  | stop =>
      cases hlink : s.link with
      | idle host =>
          apply h.keeps_of_eq _ rfl
          rw [apply, Session.stop, hlink]
      | live x =>
          rcases h.live x hlink with ⟨-, -, hqueue⟩
          -- a stop settles the exchange like a run that only ends in a fatal fault
          have hpaired : Exchange.IsPaired script x ⟨x, [], some .exited⟩ [] [] :=
            ⟨rfl, .nil, .refl _, fun hmild => by cases hmild⟩
          apply h.keeps_run hlink hpaired hqueue _ rfl
          rw [apply, stop_of_live hlink, afterRun, retire, List.append_nil]
  | execute submission =>
      cases hlink : s.link with
      | idle host =>
          apply h.keeps_of_idle _ rfl
          · exact submission
          · rw [apply, Session.execute, hlink]
      | live x =>
          rcases h.live x hlink with ⟨hmark, hlevel, hqueue⟩
          rcases hlevel.execute (h.script_of_live hlink) hregular hmark (hquit _ rfl) with
            ⟨written, unwritten, hpaired⟩
          apply h.keeps_run hlink hpaired _ _ rfl
          · rw [Exchange.execute, Exchange.queue_perform]
            exact hqueue
          · rw [apply, Session.execute, hlink]
  | enqueue submission =>
      cases hlink : s.link with
      | idle host =>
          apply h.keeps_of_idle _ rfl
          · exact submission
          · rw [apply, Session.enqueue, hlink]
      | live x => exact h.keeps_enqueue hlink (hquit _ rfl)
  | runPending =>
      cases hlink : s.link with
      | idle host =>
          apply h.keeps_of_eq _ rfl
          rw [apply, Session.runPending, hlink]
      | live x =>
          rcases h.live x hlink with ⟨hmark, hlevel, hqueue⟩
          rcases hlevel.runAll hregular hmark hqueue (h.script_of_live hlink) with
            ⟨written, unwritten, hpaired⟩
          apply h.keeps_run hlink hpaired _ _ rfl
          · intro submission hmem
            apply hqueue
            rw [← Exchange.runAll_conserves x.queue x]
            exact List.mem_append_right _ hmem
          · rw [apply, Session.runPending, hlink]
            rfl

theorem after
    (h : s.InDialogue config script) (hregular : script.IsRegular)
    (hsentinel : script.sentinel = config.sentinel) {operations : List Operation}
    (hquit : ∀ operation ∈ operations, ∀ command, operation.given? = some command →
      command.line ≠ Interpreter.quit) :
    (s.after operations).InDialogue config script := by
  induction operations generalizing s with
  | nil => exact h
  | cons operation operations ih =>
      have hkeeps := h.keeps hregular hsentinel (hquit operation List.mem_cons_self)
      apply ih hkeeps.1
      intro other hother
      exact hquit other (List.mem_cons_of_mem operation hother)

end InDialogue

theorem inDialogue_new
    (config : Config) (module : Option Text) (script : Script) :
    (Session.new config module (.ofScript script)).InDialogue config script := by
  refine ⟨rfl, rfl, ?_⟩
  intro x hx
  cases hx

/-- Whatever was done before, each operation writes commands that are answered by
the replies of their own numbers, and gives nothing to the commands that it does
not write. -/
theorem answers_paired
    (config : Config) (module : Option Text) (script : Script) (operations : List Operation)
    (operation : Operation) (hsentinel : script.sentinel = config.sentinel)
    (hregular : script.IsRegular)
    (hquit : ∀ other ∈ operations ++ [operation], ∀ command, other.given? = some command →
      command.line ≠ Interpreter.quit) :
    ∃ written unwritten,
      ((Session.new config module (.ofScript script)).after operations).Pairing script operation
        written unwritten := by
  have hbefore : ∀ other ∈ operations, ∀ command, other.given? = some command →
      command.line ≠ Interpreter.quit :=
    fun other hother => hquit other (List.mem_append_left _ hother)
  have hlast := hquit operation (List.mem_append_right _ (List.mem_singleton_self operation))
  have hdialogue := (inDialogue_new config module script).after hregular hsentinel hbefore
  exact (hdialogue.keeps hregular hsentinel hlast).2

/-- A second session begins with the first reply again. -/
theorem answers_paired_after_restart :
    let script : Script :=
      { path := "ghci".toList
        banner := Script.defaultBanner
        startup := .ofText []
        answers := [.ofText "x :: Int\n".toList, ⟨none, none, some "killed".toList, true⟩]
        sentinel := Config.default.sentinel }
    let operations : List Operation :=
      [.start, .query (.typeOf "x".toList), .query .history, .start]
    script.IsRegular ∧
      (∀ other ∈ operations ++ [.query (.raw "x".toList)], ∀ command,
        other.given? = some command → command.line ≠ Interpreter.quit) ∧
      ∃ written unwritten,
        ((Session.new Config.default none (.ofScript script)).after operations).Pairing script
          (.query (.raw "x".toList)) written unwritten := by
  intro script operations
  have hmark : IsMark script.sentinel :=
    ⟨by decide, by decide, by decide⟩
  have hregular : script.IsRegular := by
    refine ⟨.of_text hmark rfl (by decide +kernel), ?_⟩
    intro reply hreply
    rcases List.mem_cons.mp hreply with rfl | hreply
    · exact .inl ⟨"x :: Int\n".toList, by decide +kernel, by decide +kernel, rfl⟩
    · rw [List.mem_singleton.mp hreply]
      right
      show ¬ _ <:+: _
      decide +kernel
  have hquit : ∀ other ∈ operations ++ [.query (.raw "x".toList)], ∀ command,
      other.given? = some command → command.line ≠ Interpreter.quit := by
    intro other hother command hcommand
    simp only [operations, List.cons_append, List.nil_append, List.mem_cons, List.not_mem_nil,
      or_false] at hother
    rcases hother with rfl | rfl | rfl | rfl | rfl
    all_goals cases hcommand
    decide
  exact ⟨hregular, hquit, answers_paired _ _ _ _ _ rfl hregular hquit⟩

/-- A script whose banner ends in the middle of a line. -/
def unfinishedBanner : Script where
  path := "ghci".toList
  banner := "<<ghci-".toList
  startup := .ofText "debugger>>\n".toList
  answers := [.ofText "b".toList]
  sentinel := Config.default.sentinel

def shifted : Session Interpreter :=
  (Session.new Config.default none (.ofScript unfinishedBanner)).after [.start]

def shiftedQuery : Operation :=
  .query (.evaluate "x".toList none)

theorem callbacks_shifted :
    shifted.callbacks shiftedQuery = [⟨.evaluate "Prelude.show".toList "x".toList, none⟩] := by
  rfl

theorem commandLines_shifted :
    shifted.link.host.commandLines = [] ∧
      (shifted.apply shiftedQuery).link.host.commandLines = ["Prelude.show (x)".toList] := by
  decide +kernel

/-- A line may begin in the banner and end in the reply to the line that sets the
prompt.  Neither of the two has a complete line with the sentinel, and still they have
printed one as a line of its own, which is a prompt and so the end of the start.  The
next prompt is left over, and is taken for the answer to the first command. -/
theorem unfinished_banner_shifts_answers :
    (∀ line ∈ (Lines.cut '\n' unfinishedBanner.banner).1 ++
          (Lines.cut '\n' "debugger>>\n".toList).1,
        ¬ unfinishedBanner.sentinel <:+: line) ∧
      unfinishedBanner.startup = .ofText "debugger>>\n".toList ∧
      (Interpreter.replyTo unfinishedBanner 0).IsPrompted unfinishedBanner.sentinel "b".toList ∧
      shifted.isRunning = true ∧
      shifted.callbacks shiftedQuery = [⟨.evaluate "Prelude.show".toList "x".toList, none⟩] ∧
      (Command.evaluate "Prelude.show".toList "x".toList).complete (answerLines "b".toList) =
        some (.output "b".toList) ∧
      ¬ ∃ written unwritten, shifted.Pairing unfinishedBanner shiftedQuery written unwritten := by
  have hprompted : (Interpreter.replyTo unfinishedBanner 0).IsPrompted
      unfinishedBanner.sentinel "b".toList :=
    ⟨by decide +kernel, by decide +kernel, rfl⟩
  have hread : (Command.evaluate "Prelude.show".toList "x".toList).complete
      (answerLines "b".toList) = some (.output "b".toList) := by
    rfl
  rcases commandLines_shifted with ⟨hbefore, hafter⟩
  refine ⟨by decide +kernel, rfl, hprompted, by decide +kernel, callbacks_shifted, hread, ?_⟩
  rintro ⟨written, unwritten, hpairing⟩
  rcases hpairing.lines with hlines | ⟨hstart, -⟩
  · rw [hbefore, hafter, List.nil_append] at hlines
    cases written with
    | nil => cases hlines
    | cons callback written =>
        have hsplit := hpairing.callbacks
        rw [callbacks_shifted, List.cons_append, List.cons.injEq] at hsplit
        have hreply := hpairing.replies 0 callback rfl
        rw [hbefore] at hreply
        have hanswer := hreply.prompted _ hprompted
        rw [← hsplit.1, hread] at hanswer
        cases hanswer
  · cases hstart

end Session
end GhciBridge
