import GhciBridge.Exchange.Recorder
import GhciBridge.Proofs.Exchange.Transcript

/-!
# The end of the output

The end of the output is seen by an operation that reads, and that operation ends
in a fault.  The exchange keeps it in mind, and no operation forgets it.  From then on
a command comes to its end where it begins: nothing is written for it, and whatever
still is in the channel or comes later is not taken for its answer.
-/

namespace GhciBridge
namespace Exchange

variable {π : Type}

/-!
## Who sees the end

For each operation one equivalence: the end has been seen behind it if it was seen in
front of it, or if that is the fault in which it ends.
-/

theorem closed_offer
    (x : Exchange π) (events : List Event) :
    (x.offer events).closed = x.closed := by
  unfold offer
  split
  · rfl
  · rfl

theorem closed_receive_iff
    (x : Exchange π) (asked : Text) (patience : Nat) :
    (x.receive asked patience).1.closed = true ↔
      x.closed = true ∨ (x.receive asked patience).2 = .error .exited := by
  unfold receive
  rcases collect x.channel with ⟨lines, ending, rest⟩
  cases ending with
  | prompt => simp
  | closed => simp
  | silence =>
      cases hconnected : x.connected with
      | false => simp
      | true => simp

variable [Peer π]

theorem closed_sendLine
    (x : Exchange π) (text : Text) :
    (x.sendLine text).1.closed = x.closed := by
  rw [sendLine]
  split
  · exact closed_writeLine x _
  · rfl

theorem fault_sendLine
    (x : Exchange π) (text : Text) :
    (x.sendLine text).2 ≠ some .exited := by
  rw [sendLine]
  split
  · intro hfault
    cases fault_writeLine hfault
  · intro hfault
    cases hfault

theorem closed_perform_iff
    (x : Exchange π) (command : Command) :
    (x.perform command).exchange.closed = true ↔
      x.closed = true ∨ (x.perform command).fault = some .exited := by
  have hends := ends_perform x command
  have hwritten := closed_writeLine x command.line
  generalize x.perform command = outcome at hends
  cases hends with
  | closed hclosed => simp [hclosed]
  | refused hopen => simp [hopen]
  | @unwritten y fault hopen hline hwrite =>
      have hfault : fault = .io := fault_writeLine (congrArg Prod.snd hwrite)
      rw [hwrite] at hwritten
      have hkept : y.closed = false := hwritten.trans hopen
      simp [hkept, hopen, hfault]
  | @unanswered y z fault hopen hline hwrite hreceive =>
      have hread := closed_receive_iff y command.line y.patience
      rw [hwrite] at hwritten
      rw [hreceive, hwritten, Except.error.injEq] at hread
      rw [Option.some.injEq]
      exact hread
  | @answered y z lines hopen hline hwrite hreceive =>
      rw [hwrite] at hwritten
      have hkept : z.closed = false := (closed_of_receive hreceive).trans (hwritten.trans hopen)
      simp [hkept, hopen]

theorem closed_runAll_iff
    (submissions : List Submission) (x : Exchange π) :
    (runAll submissions x).exchange.closed = true ↔
      x.closed = true ∨ (runAll submissions x).fault = some .exited := by
  induction submissions generalizing x with
  | nil => simp [runAll]
  | cons submission waiting ih =>
      have hperform := closed_perform_iff x submission.command
      rw [runAll]
      cases hfault : (x.perform submission.command).fault with
      | none =>
          have hrest := ih (x.perform submission.command).exchange
          rcases closed_of_perform hfault with ⟨hopen, hopen'⟩
          rw [hopen'] at hrest
          rw [hopen]
          exact hrest
      | some fault =>
          rw [hfault] at hperform
          simp only
          split
          · exact hperform
          · exact hperform

/-!
## Nothing is run any more
-/

theorem perform_of_closed
    {x : Exchange π} (hclosed : x.closed = true) (command : Command) :
    x.perform command = ⟨x, none, some .exited⟩ :=
  if_pos hclosed

theorem runAll_of_closed
    {x : Exchange π} (hclosed : x.closed = true) {submissions : List Submission}
    (hne : submissions ≠ []) :
    runAll submissions x = ⟨x.withQueue [], submissions.map .unanswered, some .exited⟩ := by
  cases submissions with
  | nil => exact absurd rfl hne
  | cons submission waiting =>
      rw [runAll, perform_of_closed hclosed]
      rfl

namespace Record

/-- The faults in which the operations of a run end. -/
def faults (r : Record π) : List (Operation π) → List (Option Fault)
  | [] => []
  | operation :: operations => (r.apply operation).2 :: (r.apply operation).1.faults operations

theorem run_append
    (r : Record π) (first second : List (Operation π)) :
    r.run (first ++ second) = (r.run first).run second := by
  induction first generalizing r with
  | nil => rfl
  | cons operation first ih => exact ih (r.apply operation).1

theorem closed_apply_iff
    (r : Record π) (operation : Operation π) :
    (r.apply operation).1.exchange.closed = true ↔
      r.exchange.closed = true ∨ (r.apply operation).2 = some .exited := by
  cases operation with
  | feed events => simp [apply, closed_offer]
  | drop => simp [apply, disconnect]
  | alter change => simp [apply]
  | execute command purpose => exact closed_perform_iff r.exchange command
  | enqueue command purpose => simp [apply, enqueue]
  | runPending => exact closed_runAll_iff r.exchange.queue r.exchange
  | sendLine text => simp [apply, closed_sendLine, fault_sendLine]
  | waitForPrompt patience =>
      have hread := closed_receive_iff r.exchange startup patience
      rw [apply]
      rcases hwait : r.exchange.waitForPrompt patience with ⟨x, lines⟩
      rw [← waitForPrompt, hwait] at hread
      cases lines with
      | ok lines => simpa using hread
      | error fault => simpa using hread

/-- In a run the end of the output is seen once and for all. -/
theorem closed_run_iff
    (r : Record π) (operations : List (Operation π)) :
    (r.run operations).exchange.closed = true ↔
      r.exchange.closed = true ∨ some .exited ∈ r.faults operations := by
  induction operations generalizing r with
  | nil => simp [run, faults]
  | cons operation operations ih =>
      rw [run, ih, closed_apply_iff, faults, List.mem_cons, or_assoc,
        @eq_comm _ (some Fault.exited)]

/-- Nothing is run any more.  A command that is to be executed is retired without an
answer, and so is the whole queue in its order, while all else of the exchange stays as
it is: its peer is handed nothing, and no event leaves the channel. -/
structure RefusesAll (r : Record π) : Prop where
  executed :
    ∀ command purpose,
      r.apply (.execute command purpose) =
        ({ r with
            executed := r.executed ++ [r.next command purpose]
            retired := r.retired ++ [.unanswered (r.next command purpose)] },
          some .exited)
  queued :
    r.exchange.queue ≠ [] →
      r.apply .runPending =
        ({ r with
            exchange := r.exchange.withQueue []
            retired := r.retired ++ r.exchange.queue.map .unanswered },
          some .exited)

theorem refusesAll_iff
    (r : Record π) :
    r.RefusesAll ↔ r.exchange.closed = true := by
  constructor
  · intro hrefuses
    have hexecuted := hrefuses.executed .history .answer
    have hclosed := closed_apply_iff r (.execute .history .answer)
    rw [hexecuted] at hclosed
    exact hclosed.mpr (.inr rfl)
  · intro hclosed
    constructor
    · intro command purpose
      rw [apply, execute, perform_of_closed hclosed]
      rfl
    · intro hqueue
      rw [apply, runPending, runAll_of_closed hclosed hqueue]

/-- Whatever was run over an exchange, it refuses all that comes for the rest of the run
exactly if one of the operations has ended because the output was over. -/
theorem refuses_for_good_iff
    (peer : π) (sentinel : Text) (patience : Nat) (operations : List (Operation π)) :
    let r := start peer sentinel patience
    (∀ more, (r.run (operations ++ more)).RefusesAll) ↔ some .exited ∈ r.faults operations := by
  intro r
  have hopen : ¬ r.exchange.closed = true := Bool.false_ne_true
  have hseen := closed_run_iff r operations
  rw [or_iff_right hopen] at hseen
  constructor
  · intro hrefuses
    have hhere := hrefuses []
    rw [List.append_nil, refusesAll_iff] at hhere
    exact hseen.mp hhere
  · intro hexited more
    rw [run_append, refusesAll_iff, closed_run_iff]
    exact .inl (hseen.mpr hexited)

/-- An answer that stands behind the end of the output answers nothing. -/
theorem late_answer_refused :
    let r := start Recorder.empty "<<ghci>>".toList 20
    let operations : List (Operation Recorder) :=
      [.feed [.closed, .line "x = 1".toList, .prompt], .waitForPrompt 20]
    some .exited ∈ r.faults operations ∧
      (r.run operations).exchange.channel = [.line "x = 1".toList, .prompt] ∧
      ∀ more, (r.run (operations ++ more)).RefusesAll := by
  intro r operations
  have hexited : some .exited ∈ r.faults operations := by decide
  exact ⟨hexited, by decide, (refuses_for_good_iff _ _ _ operations).mpr hexited⟩

end Record
end Exchange
end GhciBridge
