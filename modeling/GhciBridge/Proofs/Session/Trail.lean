import GhciBridge.Proofs.Session.Outcome
import GhciBridge.Proofs.Answer.Stop
import Mathlib.Logic.Function.Iterate

/-!
# The way through the history

Where a session stands in the evaluation history can be told from the outcomes of
its operations alone: a start, a trace and a load begin anew, a history tells how
many steps there are, and each step that is made counts.  The marks of a step are
those of the place it leads to.

Steps are counted in a machine word, so the count of steps back begins again when
the word is full.
-/

namespace GhciBridge
namespace Session

/-- A place in the history: the number of steps back from where the program
stopped, and how many there are if that is known. -/
structure Trail where
  depth : Nat
  length : Option Nat

namespace Trail

def start : Trail := ⟨0, none⟩

def ofCursor (cursor : Cursor) : Trail :=
  ⟨cursor.depth.toNat, cursor.length⟩

/-- The place after an operation that succeeds, with a way to count one more step
back. -/
def afterGain (count : Nat → Nat) (trail : Trail) : Operation → Gain → Trail
  | .start, _ => start
  | .query (.trace _), _ => start
  | .query (.load _), _ => start
  | .query .history, .frames frames => { trail with length := some frames.length }
  | .query (.move .back), _ => { trail with depth := count trail.depth }
  | .query (.move .forward), _ => { trail with depth := trail.depth - 1 }
  | _, _ => trail

/-- The place after an operation, by its outcome. -/
def after (count : Nat → Nat) (trail : Trail) (operation : Operation) :
    Except Fault Gain → Trail
  | .ok gain => trail.afterGain count operation gain
  | .error _ => trail

/-- The place after operations with the given outcomes. -/
def along (count : Nat → Nat) (trail : Trail) : List (Operation × Except Fault Gain) → Trail
  | [] => trail
  | (operation, outcome) :: journal => (trail.after count operation outcome).along count journal

/-- How a machine word counts. -/
def nextWord (n : Nat) : Nat :=
  (n + 1) % UInt64.size

def atTop (trail : Trail) : Bool :=
  trail.depth == 0

def atBottom (trail : Trail) : Bool :=
  trail.length.any (· ≤ trail.depth)

theorem along_append
    (count : Nat → Nat) (trail : Trail) (front behind : List (Operation × Except Fault Gain)) :
    trail.along count (front ++ behind) = (trail.along count front).along count behind := by
  induction front generalizing trail with
  | nil => rfl
  | cons entry front ih => exact ih _

theorem atTop_ofCursor
    (cursor : Cursor) :
    (ofCursor cursor).atTop = cursor.atTop := by
  rw [atTop, Cursor.atTop, Bool.eq_iff_iff, beq_iff_eq, beq_iff_eq]
  exact UInt64.toNat_inj (b := 0)

theorem atBottom_ofCursor
    (cursor : Cursor) :
    (ofCursor cursor).atBottom = cursor.atBottom := by
  rcases cursor with ⟨depth, length⟩
  cases length with
  | none => rfl
  | some length => rfl

theorem ofCursor_moved
    (cursor : Cursor) (direction : Direction) (gain : Gain) :
    ofCursor (cursor.moved direction) =
      (ofCursor cursor).afterGain nextWord (.query (.move direction)) gain := by
  cases direction with
  | back =>
      have hdepth := cursor.toNat_depth_moved_back
      rw [ofCursor, hdepth]
      rfl
  | forward =>
      have hdepth := cursor.toNat_depth_moved_forward
      rw [ofCursor, hdepth]
      rfl

/-- What a session knows of its place after a success. -/
theorem ofCursor_afterGain
    (known : Knowledge) (operation : Operation) (gain : Gain) :
    ofCursor (known.after operation gain).cursor =
      (ofCursor known.cursor).afterGain nextWord operation gain := by
  cases operation with
  | query query =>
      cases query with
      | setBreakpoint module line => cases gain <;> rfl
      | removeBreakpoint module line =>
          cases gain with
          | removed found => cases found <;> rfl
          | _ => rfl
      | history => cases gain <;> rfl
      | move direction => exact ofCursor_moved known.cursor direction gain
      | _ => rfl
  | _ => rfl

end Trail

/-!
## Runs
-/

section Runs

variable {η : Type} [Host η]

/-- The operations of a run with their outcomes. -/
def journal (s : Session η) : List Operation → List (Operation × Except Fault Gain)
  | [] => []
  | operation :: operations =>
      (operation, s.outcome operation) :: (s.apply operation).journal operations

theorem journal_append
    (s : Session η) (front behind : List Operation) :
    s.journal (front ++ behind) = s.journal front ++ (s.after front).journal behind := by
  induction front generalizing s with
  | nil => rfl
  | cons operation front ih =>
      rw [List.cons_append, journal, journal, List.cons_append, ih]
      rfl

theorem after_append
    (s : Session η) (front behind : List Operation) :
    s.after (front ++ behind) = (s.after front).after behind := by
  induction front generalizing s with
  | nil => rfl
  | cons operation front ih => exact ih _

theorem cursor_afterRun
    (s : Session η) (run : Exchange.Run η) :
    (s.afterRun run).1.cursor = s.cursor := by
  cases hfatal : run.isFatal with
  | false => rw [afterRun_of_mild hfatal]
  | true => rw [afterRun_of_fatal hfatal]

theorem cursor_ask
    (s : Session η) (command : Command) :
    (s.ask command).1.cursor = s.cursor := by
  cases hlink : s.link with
  | idle host => rw [ask_of_idle hlink]
  | live x =>
      cases hfault : (x.perform command).fault with
      | none => rw [ask_of_none hlink hfault]
      | some fault =>
          rw [ask_of_fault hlink hfault]
          exact cursor_afterRun s _

theorem cursor_of_ask
    {s t : Session η} {command : Command} {answer : Except Fault (Option Answer)}
    (hask : s.ask command = (t, answer)) :
    t.cursor = s.cursor := by
  rw [← cursor_ask s command, hask]

theorem trail_query
    (s : Session η) (query : Query) :
    Trail.ofCursor (s.query query).cursor =
      (Trail.ofCursor s.cursor).after Trail.nextWord (.query query) (s.queryOutcome query) := by
  cases s.inquiry query with
  | unasked hcommand hquery houtcome hknown =>
      have hgain := Trail.ofCursor_afterGain s.knowledge (.query query) (.removed false)
      rw [hknown] at hgain
      rw [hquery, houtcome]
      exact hgain
  | failed hcommand hask hquery houtcome =>
      rw [hquery, houtcome, cursor_of_ask hask]
      rfl
  | useless hcommand hask hquery houtcome =>
      rw [hquery, houtcome, cursor_of_ask hask]
      rfl
  | @gained command t answer gain hcommand hask hquery houtcome =>
      have hgain := Trail.ofCursor_afterGain t.knowledge (.query query) gain
      rw [hquery, houtcome, ← cursor_of_ask hask]
      exact hgain

/-- What an operation does to the cursor can be told from its outcome. -/
theorem trail_apply
    (s : Session η) (operation : Operation) :
    Trail.ofCursor (s.apply operation).cursor =
      (Trail.ofCursor s.cursor).after Trail.nextWord operation (s.outcome operation) := by
  -- executing and queueing commands of the caller leaves the cursor alone, whatever comes of it
  have hsame : ∀ {other : Operation} {outcome : Except Fault Gain},
      (s.apply other).cursor = s.cursor →
      (∀ gain, (Trail.ofCursor s.cursor).afterGain Trail.nextWord other gain =
        Trail.ofCursor s.cursor) →
      Trail.ofCursor (s.apply other).cursor =
        (Trail.ofCursor s.cursor).after Trail.nextWord other outcome := by
    intro other outcome hcursor hgain
    rw [hcursor]
    cases outcome with
    | ok gain => exact (hgain gain).symm
    | error fault => rfl
  cases operation with
  | start =>
      have hbegins := begins s
      have happly : s.apply .start = s.start.1 := rfl
      have houtcome : s.outcome .start = s.start.2.map fun _ => Gain.nothing := rfl
      generalize s.start = step at hbegins happly houtcome
      rw [happly, houtcome]
      cases hbegins with
      | refused => rfl
      | unread => rfl
      | failed => rfl
      | started => rfl
  | stop =>
      apply hsame _ fun gain => rfl
      cases hlink : s.link with
      | idle host => rw [apply, stop, hlink]
      | live x => rw [apply, stop_eq hlink]
  | step request => exact hsame rfl fun gain => rfl
  | query query => exact trail_query s query
  | execute submission =>
      apply hsame _ fun gain => rfl
      cases hlink : s.link with
      | idle host =>
          rw [apply, execute, hlink]
          rfl
      | live x =>
          rw [apply, execute, hlink]
          exact cursor_afterRun s _
  | enqueue submission =>
      apply hsame _ fun gain => rfl
      cases hlink : s.link with
      | idle host =>
          rw [apply, enqueue, hlink]
          rfl
      | live x => rw [apply, enqueue, hlink]
  | runPending =>
      apply hsame _ fun gain => rfl
      cases hlink : s.link with
      | idle host => rw [apply, runPending, hlink]
      | live x =>
          rw [apply, runPending, hlink]
          exact cursor_afterRun s _

theorem trail_after
    (s : Session η) (operations : List Operation) :
    Trail.ofCursor (s.after operations).cursor =
      (Trail.ofCursor s.cursor).along Trail.nextWord (s.journal operations) := by
  induction operations generalizing s with
  | nil => rfl
  | cons operation operations ih =>
      rw [after, ih, trail_apply]
      rfl

/-!
## The marks of a step
-/

/-- The first line of an answer that is not blank, warnings apart. -/
def heading? (lines : List Text) : Option Text :=
  (Entry.skipBlank (Diagnostic.withoutWarnings lines)).head?

theorem marks_of_complete
    {direction : Direction} {cursor : Cursor} {lines : List Text} {step : HistoryStep}
    (h : (Command.move direction (some cursor)).complete lines = some (.moved step)) :
    step.atBottom = (cursor.moved direction).atBottom ∧
      ∃ header, heading? lines = some header ∧
        step.atTop =
          ((cursor.moved direction).atTop || (Answer.stopReport? header).isSome) := by
  rw [Command.complete, Option.map_eq_some_iff] at h
  rcases h with ⟨⟨answer, rest⟩, hread, hanswer⟩
  rw [Command.read?, Option.map_eq_some_iff] at hread
  rcases hread with ⟨⟨found, behind⟩, hmoved, hmarked⟩
  rcases Answer.exists_heading_of_moved? hmoved with ⟨step₀, header, rfl, hheader, htop, -⟩
  cases hmarked
  cases hanswer
  refine ⟨rfl, header, hheader, ?_⟩
  rw [← htop, Bool.or_comm]
  rfl

/-- A step that a session reports is the one its interpreter answered with. -/
theorem exists_hears_of_move
    {s : Session η} {direction : Direction} {step : HistoryStep}
    (h : s.outcome (.query (.move direction)) = .ok (.step step)) :
    ∃ lines, s.Hears (.move direction (some s.cursor)) lines ∧
      (Command.move direction (some s.cursor)).complete lines = some (.moved step) := by
  rw [outcome, queryOutcome, move] at h
  rcases hask : s.ask (.move direction (some s.cursor)) with ⟨t, result⟩
  rw [hask] at h
  cases result with
  | error fault => cases h
  | ok answer =>
      rcases exists_hears_of_ask hask with ⟨lines, hhears, hcomplete⟩
      refine ⟨lines, hhears, hcomplete.trans ?_⟩
      cases answer with
      | none => cases h
      | some answer =>
          cases answer with
          | moved found =>
              cases h
              rfl
          | _ => cases h

/-- The marks of every step that is made behind the operations are those of the place
it leads to.  A step is also at the top if it is answered by a stop report. -/
def MarksFollow (count : Nat → Nat) (s : Session η) (operations : List Operation) : Prop :=
  ∀ (direction : Direction) (step : HistoryStep),
    (s.after operations).outcome (.query (.move direction)) = .ok (.step step) →
    let trail := (Trail.start.along count (s.journal operations)).after count
      (.query (.move direction)) (.ok (.step step))
    step.atBottom = trail.atBottom ∧
      ∃ lines header,
        (s.after operations).Hears (.move direction (some (s.after operations).cursor)) lines ∧
          heading? lines = some header ∧
          step.atTop = (trail.atTop || (Answer.stopReport? header).isSome)

theorem marksFollow_of_cursor
    {s : Session η} (hstart : s.cursor = .start) (operations : List Operation) :
    s.MarksFollow Trail.nextWord operations := by
  intro direction step hstep trail
  have htrail : trail = Trail.ofCursor ((s.after operations).cursor.moved direction) := by
    have hbefore := trail_after s operations
    rw [hstart] at hbefore
    rw [Trail.ofCursor_moved _ direction (.step step), hbefore]
    rfl
  rcases exists_hears_of_move hstep with ⟨lines, hhears, hcomplete⟩
  rcases marks_of_complete hcomplete with ⟨hbottom, header, hheader, htop⟩
  rw [htrail, Trail.atBottom_ofCursor, Trail.atTop_ofCursor]
  exact ⟨hbottom, lines, header, hhears, hheader, htop⟩

/-!
## Steps back
-/

def stepsBack (k : Nat) : List Operation :=
  List.replicate k (.query (.move .back))

theorem along_stepsBack
    (count : Nat → Nat) (trail : Trail) {s : Session η} {k : Nat}
    (h : ∀ entry ∈ s.journal (stepsBack k), ∃ step, entry.2 = .ok (.step step)) :
    trail.along count (s.journal (stepsBack k)) =
      { trail with depth := count^[k] trail.depth } := by
  induction k generalizing s trail with
  | zero => rfl
  | succ k ih =>
      rw [stepsBack, List.replicate_succ, journal] at h ⊢
      rcases h _ List.mem_cons_self with ⟨step, hstep⟩
      have hrest := ih (trail.after count (.query (.move .back)) (.ok (.step step)))
        fun entry hentry => h entry (List.mem_cons_of_mem _ hentry)
      have hfirst : s.outcome (.query (.move .back)) = .ok (.step step) := hstep
      rw [Trail.along, hfirst]
      exact hrest

omit [Host η] in
theorem iterate_nextWord
    (k : Nat) :
    Trail.nextWord^[k] 0 = k % UInt64.size := by
  induction k with
  | zero => rfl
  | succ k ih =>
      rw [Function.iterate_succ_apply', ih, Trail.nextWord, Nat.mod_add_mod]

/-- Whatever was done before and whatever the interpreter says, the marks of a step
follow from the outcomes.  From where the program stopped, with a history of known
length, the steps back are at the bottom from that number on, as far as a machine word
counts. -/
theorem marks_follow_moves
    (config : Config) (module : Option Text) (host : η) :
    let s := Session.new config module host
    (∀ operations, s.MarksFollow Trail.nextWord operations) ∧
      ∀ (operations : List Operation) (frames : List StackFrame) (k : Nat) (step : HistoryStep),
        (Trail.start.along Trail.nextWord (s.journal operations)).depth = 0 →
        (s.after operations).outcome (.query .history) = .ok (.frames frames) →
        let t := (s.after operations).apply (.query .history)
        (∀ entry ∈ t.journal (stepsBack k), ∃ step, entry.2 = .ok (.step step)) →
        (t.after (stepsBack k)).outcome (.query (.move .back)) = .ok (.step step) →
        step.atBottom = decide (frames.length ≤ (k + 1) % UInt64.size) := by
  intro s
  have hfollow : ∀ operations, s.MarksFollow Trail.nextWord operations :=
    marksFollow_of_cursor rfl
  refine ⟨hfollow, ?_⟩
  intro operations frames k step hdepth hframes t hbacks hstep
  have hafter : s.after (operations ++ .query .history :: stepsBack k) =
      t.after (stepsBack k) := by
    rw [after_append]
    rfl
  have htrail : (Trail.start.along Trail.nextWord
      (s.journal (operations ++ .query .history :: stepsBack k))).after Trail.nextWord
        (.query (.move .back)) (.ok (.step step)) =
          ⟨(k + 1) % UInt64.size, some frames.length⟩ := by
    rw [journal_append, journal, hframes, Trail.along_append, Trail.along,
      along_stepsBack _ _ hbacks, ← iterate_nextWord, Function.iterate_succ_apply', ← hdepth]
    rfl
  rw [← hafter] at hstep
  have hmarks := hfollow _ .back step hstep
  rw [htrail] at hmarks
  exact hmarks.1

end Runs

/-!
## More steps than a word counts
-/

/-- A host whose interpreter says the same to every line. -/
structure Parrot where
  speech : Speech

instance : Host Parrot where
  write parrot _ := (some parrot.speech, parrot)
  reap parrot := parrot
  launch parrot _ _ := some (.silence, parrot)
  canRead _ := true
  abandon parrot := parrot

def loggedLine : Text := "Logged breakpoint at a:1:1".toList

def loggedStep : HistoryStep :=
  ⟨⟨"a".toList, 1, 1, 1, 1⟩, [], false, false⟩

/-- An interpreter that has logged one more breakpoint whatever it is told. -/
def parrot : Parrot :=
  ⟨⟨encodeUtf8 (loggedLine ++ '\n' :: Config.default.sentinel ++ ['\n']), false⟩⟩

def parrotExchange : Exchange Parrot :=
  ⟨parrot, .start Config.default.sentinel, [], true, false, [], Config.default.responseTimeout⟩

/-- A session with that interpreter. -/
def parroted (cursor : Cursor) : Session Parrot :=
  ⟨Config.default, none, .live parrotExchange, .empty, cursor, []⟩

theorem perform_parrot
    (cursor : Cursor) :
    parrotExchange.perform (.move .back (some cursor)) =
      ⟨parrotExchange, (Command.move .back (some cursor)).complete [loggedLine], none⟩ := by
  rfl

theorem complete_logged
    (cursor : Cursor) :
    (Command.move .back (some cursor)).complete [loggedLine] =
      some (.moved (Command.markStep .back (some cursor) loggedStep)) := by
  have hread : Binding.readAll [] = ([], []) := Buffer.readAll_of_none rfl
  have hlines : Diagnostic.withoutWarnings [loggedLine] = [loggedLine] := by decide
  have hskip : Entry.skipBlank [loggedLine] = [loggedLine] := by decide
  have hlogged : Answer.loggedReport? loggedLine = some loggedStep.span := by decide
  have hmoved : Answer.moved? [loggedLine] = some (.moved loggedStep, []) := by
    rw [Answer.moved?, hskip]
    simp only [hlogged, Option.map_some, Option.some_or, Option.bind_eq_bind, Option.bind_some,
      hread]
    rfl
  rw [Command.complete, hlines, Command.read?, hmoved]
  rfl

theorem start_parrot :
    (Session.new Config.default none parrot).start = (parroted .start, .ok ()) := by
  rfl

theorem move_parroted
    (cursor : Cursor) :
    (parroted cursor).move .back =
      (parroted (cursor.moved .back),
        .ok (Command.markStep .back (some cursor) loggedStep)) := by
  have hask : (parroted cursor).ask (.move .back (some cursor)) =
      (parroted cursor, .ok (some (.moved (Command.markStep .back (some cursor) loggedStep)))) := by
    have hlink : (parroted cursor).link = .live parrotExchange := rfl
    have hfault : (parrotExchange.perform (.move .back (some cursor))).fault = none := by
      rw [perform_parrot]
    rw [ask_of_none hlink hfault, perform_parrot, complete_logged]
    rfl
  have hcursor : (parroted cursor).cursor = cursor := rfl
  rw [move, hcursor, hask]
  rfl

/-- The session after some steps back. -/
theorem run_stepsBack
    (i k : Nat) :
    (parroted ⟨.ofNat i, none⟩).after (stepsBack k) = parroted ⟨.ofNat (i + k), none⟩ ∧
      ∀ entry ∈ (parroted ⟨.ofNat i, none⟩).journal (stepsBack k),
        ∃ step, entry.2 = .ok (.step step) := by
  induction k generalizing i with
  | zero =>
      refine ⟨rfl, ?_⟩
      intro entry hentry
      cases hentry
  | succ k ih =>
      have hnext : (⟨.ofNat i, none⟩ : Cursor).moved .back = ⟨.ofNat (i + 1), none⟩ := by
        rw [Cursor.moved, UInt64.ofNat_add]
        rfl
      have hmove := move_parroted ⟨.ofNat i, none⟩
      have happly : (parroted ⟨.ofNat i, none⟩).apply (.query (.move .back)) =
          parroted ⟨.ofNat (i + 1), none⟩ := by
        rw [apply, query, hmove, hnext]
      have houtcome : (parroted ⟨.ofNat i, none⟩).outcome (.query (.move .back)) =
          .ok (.step (Command.markStep .back (some ⟨.ofNat i, none⟩) loggedStep)) := by
        rw [outcome, queryOutcome, hmove]
        rfl
      rcases ih (i + 1) with ⟨hafter, hjournal⟩
      rw [stepsBack, List.replicate_succ, after, journal, happly, houtcome]
      refine ⟨?_, ?_⟩
      · rw [← stepsBack, hafter, Nat.add_right_comm]
        rfl
      · intro entry hentry
        rcases List.mem_cons.mp hentry with rfl | hentry
        · exact ⟨_, rfl⟩
        · exact hjournal entry hentry

theorem hears_parroted
    (cursor : Cursor) :
    (parroted cursor).Hears (.move .back (some cursor)) [loggedLine] :=
  ⟨parrotExchange, rfl, rfl, rfl, _, _, rfl, rfl⟩

theorem iterate_add_one
    (k n : Nat) :
    (· + 1)^[k] n = n + k := by
  induction k generalizing n with
  | zero => rfl
  | succ k ih =>
      rw [Function.iterate_succ_apply, ih]
      omega

/-- The step that fills a word leads back to where the program stopped, as far as the
session can tell: it is marked as the top although nothing but steps back was made. -/
theorem word_of_steps_back_marks_top :
    ¬ (Session.new Config.default none parrot).MarksFollow (· + 1)
      (.start :: stepsBack (UInt64.size - 1)) := by
  intro hfollow
  rcases run_stepsBack 0 (UInt64.size - 1) with ⟨hback, hbacks⟩
  have hfirst : (Session.new Config.default none parrot).apply .start =
      parroted ⟨.ofNat 0, none⟩ := congrArg Prod.fst start_parrot
  have hstarted : (Session.new Config.default none parrot).outcome .start = .ok .nothing := by
    rw [outcome, start_parrot]
    rfl
  have hafter : (Session.new Config.default none parrot).after
      (.start :: stepsBack (UInt64.size - 1)) = parroted ⟨.ofNat (UInt64.size - 1), none⟩ := by
    rw [after, hfirst, hback, Nat.zero_add]
  have htrail : Trail.start.along (· + 1)
      ((Session.new Config.default none parrot).journal (.start :: stepsBack (UInt64.size - 1))) =
        ⟨UInt64.size - 1, none⟩ := by
    rw [journal, hstarted, hfirst, Trail.along, along_stepsBack _ _ hbacks, iterate_add_one]
    rfl
  have hstep : (parroted ⟨.ofNat (UInt64.size - 1), none⟩).outcome (.query (.move .back)) =
      .ok (.step (Command.markStep .back (some ⟨.ofNat (UInt64.size - 1), none⟩) loggedStep)) := by
    rw [outcome, queryOutcome, move_parroted]
    rfl
  rw [← hafter] at hstep
  rcases hfollow .back _ hstep with ⟨-, lines, header, hhears, hheader, htop⟩
  rw [hafter] at hhears
  rw [hhears.unique (hears_parroted _)] at hheader
  have hlogged : heading? [loggedLine] = some loggedLine := by decide
  rw [hlogged, Option.some.injEq] at hheader
  have hstop : Answer.stopReport? loggedLine = none := by decide
  rw [htrail, ← hheader, hstop] at htop
  exact absurd htop (by decide)

end Session
end GhciBridge
