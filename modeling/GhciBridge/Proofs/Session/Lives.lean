import GhciBridge.Proofs.Session.Delivery
import GhciBridge.Proofs.Session.Dialogue
import GhciBridge.Proofs.Session.Forgetting

/-!
# Which interpreters are left behind

An interpreter ends when it reads the line that quits, if it has not ended by itself
before.  A roster keeps the life of every interpreter that was started.  A session that
gives up an interpreter tells it to quit, waits for its end and kills it if need be,
and while it has one it starts no other.  There is one exception: an interpreter whose
output cannot be read is told nothing, and goes on as long as it likes.
-/

namespace GhciBridge

/-- A host whose interpreters end when they read the line that quits.  `runs` tells
whether the one that was started last has not ended yet. -/
class Obedient (η : Type) extends Host η where
  runs : η → Bool
  /-- An interpreter that has ended does not come back. -/
  runs_write : ∀ (host : η) (text : Text),
    runs host = false → runs (Peer.write host text).2 = false
  /-- The line that quits is read before the patience with it is over. -/
  runs_quit : ∀ host : η,
    (Peer.write host (inputLine Interpreter.quit)).1.isSome = true →
      runs (Peer.write host (inputLine Interpreter.quit)).2 = false
  runs_reap : ∀ host : η, runs (Peer.reap host) = false

namespace Interpreter

theorem stage_hearLine_quit
    (i : Interpreter) :
    (i.hearLine quit).2.stage = none := by
  unfold hearLine
  split
  · assumption
  · rw [if_pos rfl]

/-- Whatever its script is, a scripted interpreter ends on the line that quits. -/
instance : Obedient Interpreter where
  runs i := i.stage.isSome
  runs_write := by
    intro i text hended
    rw [Option.isSome_eq_false_iff, Option.isNone_iff_eq_none] at hended
    rw [write_of_ended hended, hended]
    rfl
  runs_quit := by
    intro i hwritten
    have htrim : Text.trim quit = quit := by decide
    have hbreak : '\n' ∉ quit := by decide
    rw [inputLine, htrim] at hwritten ⊢
    cases hstage : i.stage with
    | none =>
        rw [write_of_ended hstage] at hwritten
        cases hwritten
    | some stage =>
        rw [write_of_running hstage hbreak, stage_hearLine_quit]
        rfl
  runs_reap _ := rfl

end Interpreter

/-!
## The life of an interpreter
-/

/-- How an interpreter ended. -/
inductive Exit where
  /-- It read the line that quits. -/
  | told
  | byItself
  /-- It was killed, or ended just before that. -/
  | killed
deriving DecidableEq, Repr

/-- An interpreter that was started. -/
structure Life where
  /-- The lines it has read. -/
  read : List Text
  /-- The lines that could not be written to it. -/
  missed : List Text
  /-- Nothing while it runs. -/
  exit : Option Exit
  /-- Whether it was given up without a word. -/
  abandoned : Bool
deriving DecidableEq, Repr

namespace Life

def isRunning (life : Life) : Bool :=
  life.exit.isNone

/-- The interpreter runs, and somebody looks after it. -/
def isKept (life : Life) : Bool :=
  life.exit.isNone && !life.abandoned

theorem isKept_of_abandoned
    {life : Life} (h : life.abandoned = true) :
    life.isKept = false := by
  rw [isKept, h, Bool.not_true, Bool.and_false]

/-- The life of an interpreter that has just been started. -/
def ofStart (runs : Bool) : Life :=
  ⟨[], [], if runs then none else some .byItself, false⟩

/-- The life after lines were written to the interpreter, or could not be `taken`, and it
runs or does not run behind them. -/
def hear (life : Life) (lines : List Text) (taken runs : Bool) : Life :=
  if life.isKept then
    { life with
      read := if taken then life.read ++ lines else life.read
      missed := if taken then life.missed else life.missed ++ lines
      exit :=
        if runs then none
        else if taken && lines.contains Interpreter.quit then some .told
        else some .byItself }
  else
    life

/-- The life after the interpreter was waited for and killed. -/
def reap (life : Life) : Life :=
  if life.isKept then { life with exit := some .killed } else life

/-- The life after the interpreter was given up, and it runs or does not run then. -/
def abandon (life : Life) (runs : Bool) : Life :=
  { life with
    exit := if life.isKept && !runs then some .byItself else life.exit
    abandoned := true }

/-- The line that quits is read once at most, and nothing is read behind it.  Only an
interpreter to which that line could not be written is killed, and one that is given up
has been told nothing. -/
inductive IsOrderly : Life → Prop where
  | running {read missed : List Text} (hread : Interpreter.quit ∉ read) :
      IsOrderly ⟨read, missed, none, false⟩
  | byItself {read missed : List Text} (hread : Interpreter.quit ∉ read) :
      IsOrderly ⟨read, missed, some .byItself, false⟩
  | told {read missed : List Text} (hread : Interpreter.quit ∉ read) :
      IsOrderly ⟨read ++ [Interpreter.quit], missed, some .told, false⟩
  | killed {read missed : List Text} (hread : Interpreter.quit ∉ read)
      (hmissed : Interpreter.quit ∈ missed) :
      IsOrderly ⟨read, missed, some .killed, false⟩
  | abandoned {exit : Option Exit} (hexit : ∀ e ∈ exit, e = .byItself) :
      IsOrderly ⟨[], [], exit, true⟩

theorem isOrderly_ofStart
    (runs : Bool) :
    (ofStart runs).IsOrderly := by
  cases runs with
  | true => exact .running List.not_mem_nil
  | false => exact .byItself List.not_mem_nil

theorem isRunning_ofStart
    (runs : Bool) :
    (ofStart runs).isRunning = runs := by
  cases runs with
  | true => rfl
  | false => rfl

theorem isOrderly_abandon
    (runs runs' : Bool) :
    ((ofStart runs).abandon runs').IsOrderly := by
  refine .abandoned ?_
  cases runs with
  | true =>
      cases runs' with
      | true => exact nofun
      | false => exact fun e he => (Option.mem_some.mp he).symm
  | false => exact fun e he => (Option.mem_some.mp he).symm

theorem isKept_abandon
    (life : Life) (runs : Bool) :
    (life.abandon runs).isKept = false :=
  isKept_of_abandoned rfl

/-!
### One line more
-/

theorem hear_of_not_isKept
    {life : Life} (h : life.isKept = false) (lines : List Text) (taken runs : Bool) :
    life.hear lines taken runs = life := by
  rw [hear, h]
  rfl

theorem abandoned_hear
    (life : Life) (lines : List Text) (taken runs : Bool) :
    (life.hear lines taken runs).abandoned = life.abandoned := by
  rw [hear]
  split
  · rfl
  · rfl

theorem isRunning_hear
    {life : Life} (h : life.abandoned = false) (lines : List Text) (taken runs : Bool) :
    (life.hear lines taken runs).isRunning = (life.isRunning && runs) := by
  rcases life with ⟨read, missed, exit, abandoned⟩
  cases h
  cases exit with
  | some exit => rfl
  | none =>
      cases runs with
      | true => rfl
      | false =>
          simp only [hear, isKept, isRunning, Option.isNone_none, Bool.not_false, Bool.and_true,
            if_true, Bool.false_eq_true, if_false, Bool.and_false]
          split
          · rfl
          · rfl

theorem IsOrderly.hear
    {life : Life} (h : life.IsOrderly) {line : Text} {taken runs : Bool}
    (hquit : line = Interpreter.quit → taken = true → runs = false) :
    (life.hear [line] taken runs).IsOrderly := by
  cases h with
  | byItself hread => exact .byItself hread
  | told hread => exact .told hread
  | killed hread hmissed => exact .killed hread hmissed
  | @abandoned exit hexit =>
      rw [hear_of_not_isKept (isKept_of_abandoned rfl)]
      exact .abandoned hexit
  | @running read missed hread =>
      cases taken with
      | false =>
          cases runs with
          | true => exact .running hread
          | false => exact .byItself hread
      | true =>
          by_cases hline : line = Interpreter.quit
          · subst hline
            rw [hquit rfl rfl]
            exact .told hread
          · have hread' : Interpreter.quit ∉ read ++ [line] := by
              rw [List.mem_append, List.mem_singleton, not_or]
              exact ⟨hread, fun h => hline h.symm⟩
            have hcontains : [line].contains Interpreter.quit = false := by
              simp [hline, eq_comm]
            cases runs with
            | true => exact .running hread'
            | false =>
                simp only [Life.hear, isKept, hcontains]
                exact .byItself hread'

/-- The line that quits is missed by an interpreter that goes on behind it. -/
theorem quit_mem_missed_hear
    {life : Life} {taken runs : Bool} (hquit : taken = true → runs = false)
    (hkept : (life.hear [Interpreter.quit] taken runs).isKept = true) :
    Interpreter.quit ∈ (life.hear [Interpreter.quit] taken runs).missed := by
  cases hlife : life.isKept with
  | false =>
      rw [hear_of_not_isKept hlife, hlife] at hkept
      cases hkept
  | true =>
      rw [hear, if_pos hlife] at hkept ⊢
      cases taken with
      | false => exact List.mem_append_right _ (List.mem_singleton_self _)
      | true =>
          rw [hquit rfl] at hkept
          simp [isKept] at hkept

/-!
### The end
-/

theorem abandoned_reap
    (life : Life) :
    life.reap.abandoned = life.abandoned := by
  rw [reap]
  split
  · rfl
  · rfl

theorem isKept_reap
    (life : Life) :
    life.reap.isKept = false := by
  rw [reap]
  split
  · rfl
  · next h => exact Bool.not_eq_true _ ▸ h

theorem isRunning_reap
    {life : Life} (h : life.abandoned = false) :
    life.reap.isRunning = false := by
  have hkept := life.isKept_reap
  rw [isKept, abandoned_reap, h, Bool.not_false, Bool.and_true] at hkept
  exact hkept

theorem reap_of_not_isKept
    {life : Life} (h : life.isKept = false) :
    life.reap = life := by
  rw [reap, h]
  rfl

theorem IsOrderly.reap
    {life : Life} (h : life.IsOrderly)
    (hmissed : life.isKept = true → Interpreter.quit ∈ life.missed) :
    life.reap.IsOrderly := by
  cases h with
  | running hread => exact .killed hread (hmissed rfl)
  | byItself hread => exact .byItself hread
  | told hread => exact .told hread
  | killed hread hmissed' => exact .killed hread hmissed'
  | abandoned hexit =>
      rw [reap_of_not_isKept (isKept_of_abandoned rfl)]
      exact .abandoned hexit

end Life

/-!
## The roster of a host
-/

/-- A host together with the lives of all the interpreters it has started, the last one
first.  It hands everything on to the host. -/
structure Roster (η : Type) where
  host : η
  lives : List Life

namespace Roster

variable {η : Type}

def ofHost (host : η) : Roster η :=
  ⟨host, []⟩

/-- The interpreters that were given up without a word. -/
def abandoned (r : Roster η) : List Life :=
  r.lives.filter Life.abandoned

variable [Obedient η]

def write (r : Roster η) (text : Text) : Option Speech × Roster η :=
  let (speech, host) := Peer.write r.host text
  let lines := (Lines.cut '\n' text).1.map List.dropLast
  let hear (life : Life) := life.hear lines speech.isSome (Obedient.runs host)
  (speech, ⟨host, r.lives.modifyHead hear⟩)

def reap (r : Roster η) : Roster η :=
  ⟨Peer.reap r.host, r.lives.modifyHead Life.reap⟩

def launch (r : Roster η) (path : Text) (arguments : List Text) :
    Option (Speech × Roster η) :=
  (Host.launch r.host path arguments).map fun (speech, host) =>
    (speech, ⟨host, .ofStart (Obedient.runs host) :: r.lives⟩)

def abandon (r : Roster η) : Roster η :=
  let host := Host.abandon r.host
  ⟨host, r.lives.modifyHead fun life => life.abandon (Obedient.runs host)⟩

instance : Host (Roster η) where
  write := write
  reap := reap
  launch := launch
  canRead r := Host.canRead r.host
  abandon := abandon

/-- A session cannot tell a roster from its host. -/
def forgetting : Forgetting (Roster η) η where
  forget := host
  write_forget := fun _ _ => rfl
  reap_forget := fun _ => rfl
  launch_forget := by
    intro r path arguments
    show Host.launch r.host path arguments = (r.launch path arguments).map _
    rw [launch]
    cases Host.launch r.host path arguments with
    | none => rfl
    | some launched => rfl
  canRead_forget := fun _ => rfl
  abandon_forget := fun _ => rfl

/-- All interpreters have ended or were given up but the last one, and this one runs if
the host says so. -/
structure IsKept (r : Roster η) : Prop where
  orderly : ∀ life ∈ r.lives, life.IsOrderly
  last : ∀ life ∈ r.lives.head?, life.abandoned = false → life.isRunning = Obedient.runs r.host
  earlier : ∀ life ∈ r.lives.tail, life.isKept = false

def NoneKept (r : Roster η) : Prop :=
  ∀ life ∈ r.lives, life.isKept = false

theorem isKept_ofHost
    (host : η) :
    (ofHost host).IsKept :=
  ⟨List.forall_mem_nil _, nofun, List.forall_mem_nil _⟩

/-!
### Interpreters that were given up
-/

omit [Obedient η] in
theorem filter_modifyHead
    {f : Life → Life} (habandoned : ∀ life, (f life).abandoned = life.abandoned)
    (hsame : ∀ life, life.abandoned = true → f life = life) (lives : List Life) :
    (lives.modifyHead f).filter Life.abandoned = lives.filter Life.abandoned := by
  cases lives with
  | nil => rfl
  | cons life lives =>
      rw [List.modifyHead_cons, List.filter_cons, List.filter_cons, habandoned]
      split
      · next h => rw [hsame life h]
      · rfl

theorem abandoned_write
    (r : Roster η) (text : Text) :
    (Peer.write r text).2.abandoned = r.abandoned :=
  filter_modifyHead (fun life => life.abandoned_hear _ _ _)
    (fun _ h => Life.hear_of_not_isKept (Life.isKept_of_abandoned h) _ _ _) r.lives

theorem abandoned_fed
    (r : Roster η) (texts : List Text) :
    (Peer.fed r texts).abandoned = r.abandoned := by
  induction texts generalizing r with
  | nil => rfl
  | cons text texts ih => exact (ih _).trans (abandoned_write r text)

theorem abandoned_reap
    (r : Roster η) :
    (Peer.reap r).abandoned = r.abandoned :=
  filter_modifyHead Life.abandoned_reap
    (fun _ h => Life.reap_of_not_isKept (Life.isKept_of_abandoned h)) r.lives

theorem lives_launch
    {r launched : Roster η} {path : Text} {arguments : List Text} {speech : Speech}
    (hlaunch : Host.launch r path arguments = some (speech, launched)) :
    launched.lives = .ofStart (Obedient.runs launched.host) :: r.lives := by
  have hlaunch : r.launch path arguments = some (speech, launched) := hlaunch
  rcases Option.map_eq_some_iff.mp hlaunch with ⟨⟨speech', host⟩, -, hsame⟩
  cases hsame
  rfl

theorem abandoned_launch
    {r launched : Roster η} {path : Text} {arguments : List Text} {speech : Speech}
    (hlaunch : Host.launch r path arguments = some (speech, launched)) :
    launched.abandoned = r.abandoned := by
  rw [abandoned, lives_launch hlaunch]
  exact List.filter_cons_of_neg Bool.false_ne_true

theorem exists_abandoned_abandon
    {r launched : Roster η} {path : Text} {arguments : List Text} {speech : Speech}
    (hlaunch : Host.launch r path arguments = some (speech, launched)) :
    ∃ life, (Host.abandon launched).abandoned = life :: r.abandoned := by
  have hlives := lives_launch hlaunch
  rcases launched with ⟨host, lives⟩
  obtain rfl : lives = .ofStart (Obedient.runs host) :: r.lives := hlives
  exact ⟨_, List.filter_cons_of_pos rfl⟩

/-!
### What is kept
-/

theorem write_line
    {line : Text} (hline : '\n' ∉ line) (r : Roster η) :
    (Peer.write r (line ++ ['\n'])).2 =
      ⟨(Peer.write r.host (line ++ ['\n'])).2,
        r.lives.modifyHead fun life =>
          life.hear [line] (Peer.write r.host (line ++ ['\n'])).1.isSome
            (Obedient.runs (Peer.write r.host (line ++ ['\n'])).2)⟩ := by
  have hcut : Lines.cut '\n' (line ++ ['\n']) = ([line ++ ['\n']], []) :=
    Lines.cut_terminated hline []
  show (r.write (line ++ ['\n'])).2 = _
  simp [write, hcut]

theorem IsKept.write
    {r : Roster η} (h : r.IsKept) {line : Text} (hline : '\n' ∉ line) :
    (Peer.write r (line ++ ['\n'])).2.IsKept := by
  rw [write_line hline]
  rcases r with ⟨host, lives⟩
  have hquit : line = Interpreter.quit →
      (Peer.write host (line ++ ['\n'])).1.isSome = true →
        Obedient.runs (Peer.write host (line ++ ['\n'])).2 = false := by
    intro hline
    rw [hline]
    exact Obedient.runs_quit host
  have hgone := Obedient.runs_write host (line ++ ['\n'])
  generalize Peer.write host (line ++ ['\n']) = said at hquit hgone
  cases lives with
  | nil => exact ⟨List.forall_mem_nil _, nofun, List.forall_mem_nil _⟩
  | cons life lives =>
      rcases h with ⟨horderly, hlast, hearlier⟩
      rw [List.forall_mem_cons] at horderly
      refine ⟨?_, ?_, hearlier⟩
      · exact List.forall_mem_cons.mpr ⟨horderly.1.hear hquit, horderly.2⟩
      · intro other hother hlife
        cases hother
        rw [Life.abandoned_hear] at hlife
        rw [Life.isRunning_hear hlife, hlast life rfl hlife]
        cases hruns : Obedient.runs host with
        | true => rfl
        | false => exact (hgone hruns).symm

/-- A text that is written as one line. -/
def IsLine (text : Text) : Prop :=
  ∃ line, '\n' ∉ line ∧ text = line ++ ['\n']

theorem IsKept.fed
    {r : Roster η} (h : r.IsKept) {texts : List Text} (htexts : ∀ text ∈ texts, IsLine text) :
    (Peer.fed r texts).IsKept := by
  induction texts generalizing r with
  | nil => exact h
  | cons text texts ih =>
      rw [List.forall_mem_cons] at htexts
      rcases htexts.1 with ⟨line, hline, rfl⟩
      exact ih (h.write hline) htexts.2

theorem IsKept.launch
    {r launched : Roster η} (h : r.IsKept) (hnone : r.NoneKept) {path : Text}
    {arguments : List Text} {speech : Speech}
    (hlaunch : Host.launch r path arguments = some (speech, launched)) :
    launched.IsKept := by
  have hlives := lives_launch hlaunch
  rcases launched with ⟨host, lives⟩
  obtain rfl : lives = .ofStart (Obedient.runs host) :: r.lives := hlives
  refine ⟨?_, ?_, hnone⟩
  · exact List.forall_mem_cons.mpr ⟨Life.isOrderly_ofStart _, h.orderly⟩
  · intro life hlife _
    cases hlife
    exact Life.isRunning_ofStart _

/-- An interpreter that goes on has missed the line that quits. -/
def IsTold (r : Roster η) : Prop :=
  ∀ life ∈ r.lives.head?, life.isKept = true → Interpreter.quit ∈ life.missed

theorem isTold_write
    (r : Roster η) :
    (Peer.write r (inputLine Interpreter.quit)).2.IsTold := by
  have hbreak : '\n' ∉ Interpreter.quit := by decide
  have hline : inputLine Interpreter.quit = Interpreter.quit ++ ['\n'] := by decide
  have hquit := Obedient.runs_quit r.host
  rw [hline] at hquit ⊢
  rw [IsTold, write_line hbreak]
  cases r.lives with
  | nil => exact nofun
  | cons life lives =>
      intro other hother hkept
      cases hother
      exact Life.quit_mem_missed_hear hquit hkept

theorem IsKept.reap
    {r : Roster η} (h : r.IsKept) (htold : r.IsTold) :
    (Peer.reap r).IsKept ∧ (Peer.reap r).NoneKept := by
  rcases r with ⟨host, lives⟩
  cases lives with
  | nil => exact ⟨⟨List.forall_mem_nil _, nofun, List.forall_mem_nil _⟩, List.forall_mem_nil _⟩
  | cons life lives =>
      rcases h with ⟨horderly, hlast, hearlier⟩
      rw [List.forall_mem_cons] at horderly
      have hreaped := horderly.1.reap (htold life rfl)
      refine ⟨⟨?_, ?_, hearlier⟩, ?_⟩
      · exact List.forall_mem_cons.mpr ⟨hreaped, horderly.2⟩
      · intro other hother hlife
        cases hother
        rw [Life.abandoned_reap] at hlife
        exact (Life.isRunning_reap hlife).trans (Obedient.runs_reap host).symm
      · exact List.forall_mem_cons.mpr ⟨life.isKept_reap, hearlier⟩

/-- When the last interpreter was told to quit, waited for and killed, there is none left
to look after. -/
theorem IsKept.shutdown
    {r : Roster η} (h : r.IsKept) {texts : List Text} (htexts : ∀ text ∈ texts, IsLine text) :
    (Peer.reap (Peer.fed r (texts ++ [inputLine Interpreter.quit]))).IsKept ∧
      (Peer.reap (Peer.fed r (texts ++ [inputLine Interpreter.quit]))).NoneKept := by
  have hbreak : '\n' ∉ Text.trim Interpreter.quit := by decide
  rw [Peer.fed_append]
  exact ((h.fed htexts).write hbreak).reap (isTold_write _)

theorem IsKept.abandon
    {r launched : Roster η} (h : r.IsKept) (hnone : r.NoneKept) {path : Text}
    {arguments : List Text} {speech : Speech}
    (hlaunch : Host.launch r path arguments = some (speech, launched)) :
    (Host.abandon launched).IsKept ∧ (Host.abandon launched).NoneKept := by
  have hlives := lives_launch hlaunch
  rcases launched with ⟨host, lives⟩
  obtain rfl : lives = .ofStart (Obedient.runs host) :: r.lives := hlives
  have horderly := Life.isOrderly_abandon (Obedient.runs host) (Obedient.runs (Host.abandon host))
  have hkept := (Life.ofStart (Obedient.runs host)).isKept_abandon
    (Obedient.runs (Host.abandon host))
  refine ⟨⟨?_, ?_, hnone⟩, ?_⟩
  · exact List.forall_mem_cons.mpr ⟨horderly, h.orderly⟩
  · intro life hlife hgivenUp
    cases hlife
    cases hgivenUp
  · exact List.forall_mem_cons.mpr ⟨hkept, hnone⟩

end Roster

namespace Session

variable {η : Type}

/-!
## What a session writes is lines
-/

theorem isLine_inputLine
    {text : Text} (hfits : fitsInput text = true) :
    Roster.IsLine (inputLine text) :=
  ⟨Text.trim text, ((Command.fitsOneLine_iff _).mp hfits).1, rfl⟩

theorem isLine_of_mem_promptLines
    (config : Config) :
    ∀ text ∈ promptLines config, Roster.IsLine text := by
  intro text htext
  rcases List.mem_map.mp htext with ⟨prompt, hprompt, rfl⟩
  exact isLine_inputLine (List.mem_filter.mp hprompt).2

theorem isLine_of_writes
    [Peer η] {x : Exchange η} {command : Command} (hwrites : x.writes command = true) :
    Roster.IsLine (inputLine command.payload) := by
  rw [Exchange.writes, Bool.and_eq_true] at hwrites
  exact isLine_inputLine hwrites.2

theorem isLine_of_mem_ownLines
    [Host η] (s : Session η) (x : Exchange η) (operation : Operation) :
    ∀ text ∈ s.ownLines x operation, Roster.IsLine text := by
  intro text htext
  cases operation with
  | query query =>
      rcases List.mem_map.mp htext with ⟨command, hcommand, rfl⟩
      exact isLine_of_writes (List.mem_filter.mp hcommand).2
  | _ => cases htext

theorem isLine_of_sent
    [Host η] {s : Session η} {operation : Operation} {submission : Submission}
    (hsent : submission ∈ s.sent operation) :
    Roster.IsLine (inputLine submission.command.payload) := by
  cases hlink : s.link with
  | idle host =>
      rw [sent, hlink] at hsent
      cases hsent
  | live x =>
      rw [sent, hlink] at hsent
      exact isLine_of_writes (List.mem_filter.mp hsent).2

/-- An operation on a running session writes lines, and the last one tells the
interpreter to quit if the operation ends the session. -/
theorem exists_dictated
    [Host η] {s : Session η} {x : Exchange η} (hlink : s.link = .live x) (operation : Operation) :
    ∃ texts, s.dictated operation = texts ++ s.parting (s.apply operation) ∧
      ∀ text ∈ texts, Roster.IsLine text := by
  rw [dictated, hlink]
  refine ⟨_, rfl, List.forall_mem_append.mpr ⟨isLine_of_mem_ownLines s x operation, ?_⟩⟩
  intro text htext
  rcases List.mem_map.mp htext with ⟨submission, hsent, rfl⟩
  exact isLine_of_sent hsent

theorem isRunning_stop
    [Host η] (s : Session η) :
    s.stop.isRunning = false := by
  cases hlink : s.link with
  | idle host =>
      rw [stop, hlink]
      exact isRunning_of_idle hlink
  | live x =>
      rw [stop_eq hlink]
      rfl

/-!
## What a session leaves behind
-/

variable [Obedient η]

/-- The interpreters that were started for a session, the last one first. -/
def interpreters (s : Session (Roster η)) : List Life :=
  s.link.host.lives

/-- A session that does not run looks after no interpreter. -/
structure IsTidy (s : Session (Roster η)) : Prop where
  kept : s.link.host.IsKept
  idle : s.isRunning = false → s.link.host.NoneKept

theorem isTidy_start
    {s : Session (Roster η)} (h : s.IsTidy) :
    s.start.1.IsTidy := by
  have hbegins := begins s
  generalize s.start = step at hbegins
  have hprompt := isLine_of_mem_promptLines s.config
  have hkept := h.kept
  have hnone := h.idle
  cases hbegins with
  | refused => exact h
  | unread hidle hlaunch =>
      rw [hidle] at hkept hnone
      have hgivenUp := hkept.abandon (hnone (isRunning_of_idle hidle)) hlaunch
      exact ⟨hgivenUp.1, fun _ => hgivenUp.2⟩
  | failed hidle hlaunch =>
      rw [hidle] at hkept hnone
      have hended := (hkept.launch (hnone (isRunning_of_idle hidle)) hlaunch).shutdown hprompt
      exact ⟨hended.1, fun _ => hended.2⟩
  | @started host launched speech x hidle hlaunch hreader hpeer =>
      rw [hidle] at hkept hnone
      refine ⟨?_, nofun⟩
      show x.peer.IsKept
      rw [hpeer]
      exact (hkept.launch (hnone (isRunning_of_idle hidle)) hlaunch).fed hprompt

theorem isTidy_of_dictated
    {s t : Session (Roster η)} {x : Exchange (Roster η)} (h : s.IsTidy) (hlink : s.link = .live x)
    {texts : List Text} (htexts : ∀ text ∈ texts, Roster.IsLine text)
    (hhost : t.link.host = s.leaving t (Peer.fed s.link.host (texts ++ s.parting t))) :
    t.IsTidy := by
  -- the interpreter is told to quit and waited for exactly if the session ends
  cases hrunning : t.isRunning with
  | true =>
      rw [leaving_of_running hrunning, parting_of_running hrunning, List.append_nil] at hhost
      refine ⟨?_, ?_⟩
      · rw [hhost]
        exact h.kept.fed htexts
      · rw [hrunning]
        exact nofun
  | false =>
      have hended : t.link.host =
          Peer.reap (Peer.fed s.link.host (texts ++ [inputLine Interpreter.quit])) := by
        rw [hhost, leaving, parting, isRunning_of_live hlink, hrunning]
        rfl
      have hquit := h.kept.shutdown htexts
      rw [← hended] at hquit
      exact ⟨hquit.1, fun _ => hquit.2⟩

theorem isTidy_apply
    {s : Session (Roster η)} (h : s.IsTidy) (operation : Operation) :
    (s.apply operation).IsTidy := by
  cases s.feeds operation with
  | launched hstart =>
      rw [hstart]
      exact isTidy_start h
  | unread hstart =>
      rw [hstart]
      exact isTidy_start h
  | dictated hreader hhost =>
      cases hlink : s.link with
      | live x =>
          rcases exists_dictated hlink operation with ⟨texts, hdictated, htexts⟩
          rw [hdictated] at hhost
          exact isTidy_of_dictated h hlink htexts hhost
      | idle host =>
          have hidle := isRunning_of_idle hlink
          have hsilent : s.dictated operation = [] := by
            rw [dictated, hlink]
          rw [hsilent, leaving_of_idle hidle] at hhost
          have hsame : (s.apply operation).link.host = s.link.host := hhost
          refine ⟨?_, fun _ => ?_⟩
          · rw [hsame]
            exact h.kept
          · rw [hsame]
            exact h.idle hidle

theorem isTidy_after
    {s : Session (Roster η)} (h : s.IsTidy) (operations : List Operation) :
    (s.after operations).IsTidy := by
  induction operations generalizing s with
  | nil => exact h
  | cons operation operations ih => exact ih (isTidy_apply h operation)

/-- An interpreter is given up without a word where its output cannot be read, and
nowhere else.  What was given up is left alone. -/
theorem exists_abandoned_apply
    (s : Session (Roster η)) (operation : Operation) :
    ∃ more, (s.apply operation).link.host.abandoned = more ++ s.link.host.abandoned ∧
      more.length = if s.lacksReader operation then 1 else 0 := by
  cases s.feeds operation with
  | dictated hreader hhost =>
      refine ⟨[], ?_, by rw [hreader]; rfl⟩
      rw [hhost, leaving]
      split
      · rw [Roster.abandoned_reap, Roster.abandoned_fed]
        rfl
      · rw [Roster.abandoned_fed]
        rfl
  | launched hstart hidle hlaunch hreader hhost =>
      refine ⟨[], ?_, by rw [hreader]; rfl⟩
      rcases hhost with hhost | hhost
      · rw [hhost, Roster.abandoned_fed, Roster.abandoned_launch hlaunch]
        rfl
      · rw [hhost, Roster.abandoned_reap, Roster.abandoned_fed, Roster.abandoned_launch hlaunch]
        rfl
  | unread hstart hidle hlaunch hreader hhost =>
      rcases Roster.exists_abandoned_abandon hlaunch with ⟨life, hgivenUp⟩
      refine ⟨[life], ?_, by rw [hreader]; rfl⟩
      rw [hhost, hgivenUp]
      rfl

theorem abandoned_stop
    (s : Session (Roster η)) :
    s.stop.link.host.abandoned = s.link.host.abandoned := by
  rcases exists_abandoned_apply s .stop with ⟨more, hmore, hlength⟩
  rw [List.eq_nil_of_length_eq_zero hlength] at hmore
  exact hmore

/-- The session looks after one interpreter at most, and only while it runs. -/
theorem IsTidy.countP_isKept_le
    {s : Session (Roster η)} (h : s.IsTidy) :
    s.interpreters.countP Life.isKept ≤ if s.isRunning then 1 else 0 := by
  rw [interpreters]
  cases hrunning : s.isRunning with
  | false =>
      rw [List.countP_eq_zero.mpr]
      · exact Nat.le_refl 0
      · intro life hlife
        rw [h.idle hrunning life hlife]
        exact Bool.false_ne_true
  | true =>
      have hearlier := h.kept.earlier
      cases hlives : s.link.host.lives with
      | nil => exact Nat.zero_le 1
      | cons life lives =>
          rw [hlives] at hearlier
          have hzero : lives.countP Life.isKept = 0 := by
            apply List.countP_eq_zero.mpr
            intro other hother
            rw [hearlier other hother]
            exact Bool.false_ne_true
          rw [List.countP_cons, hzero, Nat.zero_add]
          split
          · exact Nat.le_refl 1
          · exact Nat.zero_le 1

/-- At most one of the interpreters runs, and only while the session does.  By the drop
of the session each has ended, by itself or on the line that quits: it has read that
line once, and as the last one. -/
structure LeavesNone (s : Session (Roster η)) : Prop where
  running : s.interpreters.countP Life.isRunning ≤ if s.isRunning then 1 else 0
  dropped :
    ∀ life ∈ s.stop.interpreters,
      life.exit = some .byItself ∨
        life.exit.isSome = true ∧
          ∃ read, life.read = read ++ [Interpreter.quit] ∧ Interpreter.quit ∉ read

theorem IsTidy.leavesNone_iff
    {s : Session (Roster η)} (h : s.IsTidy) :
    s.LeavesNone ↔
      ∀ life ∈ s.stop.interpreters,
        life.exit ≠ some .killed ∧ (life.abandoned = true → life.exit = some .byItself) := by
  have hdropped : s.stop.IsTidy := isTidy_apply h .stop
  have hnone := hdropped.idle (isRunning_stop s)
  constructor
  · intro hleaves life hlife
    have hexit := hleaves.dropped life hlife
    cases hdropped.kept.orderly life hlife with
    | running => cases hnone _ hlife
    | byItself => exact ⟨nofun, fun _ => rfl⟩
    | told => exact ⟨nofun, nofun⟩
    | @killed read missed hread hmissed =>
        rcases hexit with hself | ⟨-, front, hfront, -⟩
        · cases hself
        · have hfront : read = front ++ [Interpreter.quit] := hfront
          rw [hfront] at hread
          exact absurd (List.mem_append_right _ (List.mem_singleton_self _)) hread
    | abandoned =>
        rcases hexit with hself | ⟨-, front, hfront, -⟩
        · exact ⟨fun hkilled => (nomatch hself.symm.trans hkilled), fun _ => hself⟩
        · exact absurd hfront.symm (List.append_ne_nil_of_right_ne_nil _ (List.cons_ne_nil _ _))
  · intro hends
    constructor
    · have hsame : ∀ life ∈ s.interpreters, life.isRunning = true ↔ life.isKept = true := by
        intro life hlife
        cases hgivenUp : life.abandoned with
        | false => rw [Life.isKept, hgivenUp, Bool.not_false, Bool.and_true, Life.isRunning]
        | true =>
            have hmem : life ∈ s.link.host.abandoned := List.mem_filter.mpr ⟨hlife, hgivenUp⟩
            rw [← abandoned_stop] at hmem
            have hexit := (hends life (List.mem_filter.mp hmem).1).2 hgivenUp
            rw [Life.isKept_of_abandoned hgivenUp, Life.isRunning, hexit]
            rfl
      rw [List.countP_congr hsame]
      exact h.countP_isKept_le
    · intro life hlife
      have hend := hends life hlife
      cases hdropped.kept.orderly life hlife with
      | running => cases hnone _ hlife
      | byItself => exact .inl rfl
      | told hread => exact .inr ⟨rfl, _, rfl, hread⟩
      | killed => exact absurd rfl hend.1
      | abandoned => exact .inl (hend.2 rfl)

/-- Whatever is done and however it ends, a session that runs starts no other interpreter,
and it looks after one at most.  What it has looked after has ended by its drop; it is
given up without a word exactly where its output cannot be read.  So no interpreter is
left behind if those have ended by themselves, and the line that quits could be written to
the others.  Keeping the roster changes nothing. -/
theorem no_interpreter_left_iff
    (config : Config) (module : Option Text) (host : η) (operations : List Operation) :
    let s := (Session.new config module host).after operations
    let kept := (Session.new config module (Roster.ofHost host)).after operations
    (kept.map Roster.host = s ∧ ∀ operation, kept.outcome operation = s.outcome operation) ∧
      (s.isRunning = true → kept.start = (kept, .error .alreadyRunning)) ∧
      kept.interpreters.countP Life.isKept ≤ (if s.isRunning then 1 else 0) ∧
      (∀ life ∈ kept.stop.interpreters, life.IsOrderly ∧ life.isKept = false) ∧
      (∀ operation, ∃ more,
        (kept.apply operation).interpreters.filter Life.abandoned =
            more ++ kept.interpreters.filter Life.abandoned ∧
          more.length = if kept.lacksReader operation then 1 else 0) ∧
      (kept.LeavesNone ↔
        ∀ life ∈ kept.stop.interpreters,
          life.exit ≠ some .killed ∧ (life.abandoned = true → life.exit = some .byItself)) := by
  intro s kept
  have hsame : kept.map Roster.host = s :=
    (after_map Roster.forgetting
      (Session.new config module (Roster.ofHost host)) operations).symm
  have hrunning : kept.isRunning = s.isRunning := by
    rw [← hsame, isRunning_map]
  have hnew : (Session.new config module (Roster.ofHost host)).IsTidy :=
    ⟨Roster.isKept_ofHost host, fun _ => List.forall_mem_nil _⟩
  have htidy : kept.IsTidy := isTidy_after hnew operations
  have hdropped : kept.stop.IsTidy := isTidy_apply htidy .stop
  rw [← hrunning]
  refine ⟨⟨hsame, ?_⟩, ?_, htidy.countP_isKept_le, ?_, exists_abandoned_apply kept,
    htidy.leavesNone_iff⟩
  · intro operation
    rw [← hsame]
    exact (apply_map Roster.forgetting kept operation).2.symm
  · intro hlive
    cases hlink : kept.link with
    | idle host =>
        rw [isRunning_of_idle hlink] at hlive
        cases hlive
    | live x => rw [start, hlink]
  · intro life hlife
    exact ⟨hdropped.kept.orderly life hlife, hdropped.idle (isRunning_stop kept) life hlife⟩

/-- The first interpreter falls silent and is told to quit, and so is the second one, by a
command. -/
theorem silent_interpreter_not_left :
    let silence : Reply := ⟨none, none, none, false⟩
    let script : Script := ⟨"ghci".toList, [], .ofText [], [silence], Config.default.sentinel⟩
    let session := Session.new Config.default none (Roster.ofHost (Interpreter.ofScript script))
    let left := session.after
      [.start, .query .history, .start, .start, .query (.raw ":quit".toList)]
    left.interpreters =
        [⟨[Config.default.promptCommand, ":quit".toList], [], some .told, false⟩,
          ⟨[Config.default.promptCommand, ":history".toList, ":quit".toList], [], some .told,
            false⟩] ∧
      left.LeavesNone := by
  intro silence script session left
  have hleaves := (no_interpreter_left_iff Config.default none (Interpreter.ofScript script)
    [.start, .query .history, .start, .start, .query (.raw ":quit".toList)]).2.2.2.2.2
  exact ⟨by decide +kernel, hleaves.mpr (by decide +kernel)⟩

end Session

/-- A scripted interpreter whose output cannot be read, and which has too much to do to
notice that it was given up. -/
structure Unread where
  interpreter : Interpreter

namespace Unread

instance : Host Unread where
  write u text :=
    let (speech, interpreter) := Peer.write u.interpreter text
    (speech, ⟨interpreter⟩)
  reap u := ⟨Peer.reap u.interpreter⟩
  launch u path arguments :=
    (Host.launch u.interpreter path arguments).map fun (speech, interpreter) =>
      (speech, ⟨interpreter⟩)
  canRead _ := false
  abandon u := u

instance : Obedient Unread where
  runs u := Obedient.runs u.interpreter
  runs_write u := Obedient.runs_write u.interpreter
  runs_quit u := Obedient.runs_quit u.interpreter
  runs_reap u := Obedient.runs_reap u.interpreter

end Unread

namespace Session

/-- Two interpreters run, and the session does not.  Nobody has told them to quit. -/
theorem unread_interpreters_left :
    let script : Script := ⟨"ghci".toList, [], .ofText [], [], Config.default.sentinel⟩
    let session := Session.new Config.default none (Roster.ofHost (Unread.mk (.ofScript script)))
    let left := session.after [.start, .start]
    session.start.2 = .error .io ∧ left.isRunning = false ∧
      left.interpreters = [⟨[], [], none, true⟩, ⟨[], [], none, true⟩] ∧ ¬ left.LeavesNone := by
  intro script session left
  have hlives : left.interpreters = [⟨[], [], none, true⟩, ⟨[], [], none, true⟩] := by
    decide +kernel
  refine ⟨rfl, rfl, hlives, fun hleaves => ?_⟩
  have hrunning := hleaves.running
  rw [hlives] at hrunning
  exact absurd hrunning (by decide +kernel)

end Session
end GhciBridge
