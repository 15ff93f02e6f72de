import GhciBridge.Proofs.Session.Report

/-!
# Queries of a running session

A query fails with the fault of its command, or with one of its own if the answer is
of no use.  In a running session neither says that the session does not run, and what
comes of the query tells whether the session still runs behind it.
-/

namespace GhciBridge
namespace Session

variable {η : Type} [Host η]

/-- The fault of a query that has no use for the answer to its command. -/
def Query.ownFault (command : Command) : Query → Fault
  | .typeOf expression => .untyped (Text.trim expression)
  | .evaluate expression _ => .evaluation (Text.trim expression)
  | .force expression => .evaluation (Text.trim expression)
  | _ => unreadable command

omit [Host η] in
theorem error_of_map
    {α β : Type} {f : α → β} {result : Except Fault α} {fault : Fault}
    (h : result.map f = .error fault) :
    result = .error fault := by
  cases result with
  | error first =>
      cases h
      rfl
  | ok value => cases h

/-- A query has the fault of its command or its own one. -/
theorem fault_queryOutcome
    {s : Session η} {query : Query} {fault : Fault}
    (h : s.queryOutcome query = .error fault) :
    ∃ command, s.command? query = some command ∧
      ((s.ask command).2 = .error fault ∨ fault = query.ownFault command) := by
  cases query with
  | setBreakpoint module line =>
      have h := error_of_map h
      rw [setBreakpoint] at h
      split at h
      · next hask =>
          cases h
          exact ⟨_, rfl, .inl (congrArg Prod.snd hask)⟩
      · cases h
      · cases h
        exact ⟨_, rfl, .inr rfl⟩
  | removeBreakpoint module line =>
      have h := error_of_map h
      rw [removeBreakpoint] at h
      split at h
      · cases h
      · next point hpoint =>
          have hcommand : s.command? (.removeBreakpoint module line) =
              some (.deleteBreakpoint point.number) := by
            rw [command?, hpoint]
            rfl
          simp only at h
          split at h
          · next hask =>
              cases h
              exact ⟨_, hcommand, .inl (congrArg Prod.snd hask)⟩
          · cases h
            exact ⟨_, hcommand, .inr rfl⟩
          · cases h
  | trace expression =>
      have h := error_of_map h
      rw [trace] at h
      split at h
      · next hask =>
          cases h
          exact ⟨_, rfl, .inl (congrArg Prod.snd hask)⟩
      · cases h
      · cases h
  | typeOf expression =>
      have h := error_of_map h
      rw [typeOf] at h
      split at h
      · next hask =>
          cases h
          exact ⟨_, rfl, .inl (congrArg Prod.snd hask)⟩
      · cases h
      · cases h
        exact ⟨_, rfl, .inr rfl⟩
  | evaluate expression typeName =>
      have h := error_of_map h
      rw [evaluate] at h
      split at h
      · next hask =>
          cases h
          exact ⟨_, rfl, .inl (congrArg Prod.snd hask)⟩
      · unfold Answer.value at h
        split at h
        · cases h
        · cases h
          exact ⟨_, rfl, .inr rfl⟩
  | history =>
      have h := error_of_map h
      rw [history] at h
      split at h
      · next hask =>
          cases h
          exact ⟨_, rfl, .inl (congrArg Prod.snd hask)⟩
      · cases h
      · cases h
        exact ⟨_, rfl, .inr rfl⟩
  | bindings =>
      have h := error_of_map h
      rw [bindings] at h
      split at h
      · next hask =>
          cases h
          exact ⟨_, rfl, .inl (congrArg Prod.snd hask)⟩
      · cases h
      · cases h
        exact ⟨_, rfl, .inr rfl⟩
  | force expression =>
      have h := error_of_map h
      rw [force] at h
      split at h
      · next hask =>
          cases h
          exact ⟨_, rfl, .inl (congrArg Prod.snd hask)⟩
      · cases h
      · cases h
        exact ⟨_, rfl, .inr rfl⟩
  | move direction =>
      have h := error_of_map h
      rw [move] at h
      split at h
      · next hask =>
          cases h
          exact ⟨_, rfl, .inl (congrArg Prod.snd hask)⟩
      · cases h
      · cases h
        exact ⟨_, rfl, .inr rfl⟩
  | load path =>
      have h := error_of_map h
      rw [load] at h
      split at h
      · next hask =>
          cases h
          exact ⟨_, rfl, .inl (congrArg Prod.snd hask)⟩
      · cases h
        exact ⟨_, rfl, .inr rfl⟩
      · cases h
  | raw text =>
      have h := error_of_map h
      rw [raw] at h
      split at h
      · next hask =>
          cases h
          exact ⟨_, rfl, .inl (congrArg Prod.snd hask)⟩
      · cases h
        exact ⟨_, rfl, .inr rfl⟩
      · cases h

/-- No query of a running session is told that it does not run. -/
theorem queryOutcome_ne_notRunning
    {s : Session η} (hrunning : s.isRunning = true) (query : Query) :
    s.queryOutcome query ≠ .error .notRunning := by
  intro h
  rcases fault_queryOutcome h with ⟨command, -, hask | hown⟩
  · cases hlink : s.link with
    | idle host =>
        rw [isRunning_of_idle hlink] at hrunning
        cases hrunning
    | live x =>
        cases hfault : (x.perform command).fault with
        | none =>
            rw [ask_of_none hlink hfault] at hask
            cases hask
        | some fault =>
            rw [ask_of_fault hlink hfault] at hask
            cases hask
            rcases Exchange.fault_perform hfault with h | h | h | ⟨waited, h⟩
            all_goals cases h
  · cases query with
    | _ => cases hown

/-!
## What a step tells
-/

/-- What a step of a running session gives its caller tells whether the session still
runs, and never is that it does not run. -/
inductive Tells {α : Type} : Step η α → Prop where
  | done {t : Session η} {value : α}
      (hrunning : t.isRunning = true) :
      Tells (t, .ok value)
  | refused {t : Session η} {fault : Fault}
      (hrunning : t.isRunning = true)
      (hmild : fault.isFatal = false)
      (hknown : fault ≠ .notRunning) :
      Tells (t, .error fault)
  | lost {t : Session η} {fault : Fault}
      (hstopped : t.isRunning = false)
      (hempty : t.breakpoints = .empty)
      (hfatal : fault.isFatal = true) :
      Tells (t, .error fault)

omit [Host η] in
/-- What is made of the value that a step gives does not matter. -/
theorem tells_map_iff
    {α β : Type} {step : Step η α} {f : α → β} :
    Tells (step.1, step.2.map f) ↔ Tells step := by
  rcases step with ⟨t, result⟩
  cases result with
  | ok value =>
      constructor
      · intro h
        cases h with
        | done hrunning => exact .done hrunning
      · intro h
        cases h with
        | done hrunning => exact .done hrunning
  | error fault =>
      constructor
      · intro h
        cases h with
        | refused hrunning hmild hknown => exact .refused hrunning hmild hknown
        | lost hstopped hempty hfatal => exact .lost hstopped hempty hfatal
      · intro h
        cases h with
        | refused hrunning hmild hknown => exact .refused hrunning hmild hknown
        | lost hstopped hempty hfatal => exact .lost hstopped hempty hfatal

theorem tells_query
    {s : Session η} (hrunning : s.isRunning = true) (query : Query) :
    Tells (s.query query, s.queryOutcome query) := by
  have hreports := (reports_query (isSound_of_running hrunning) query).1
  cases houtcome : s.queryOutcome query with
  | error fault =>
      cases hfatal : fault.isFatal with
      | false =>
          have hkept := (hreports.refused fault houtcome hfatal).1
          refine .refused (hkept.trans hrunning) hfatal ?_
          rintro rfl
          exact queryOutcome_ne_notRunning hrunning query houtcome
      | true =>
          rcases hreports.lost fault houtcome hfatal with ⟨hstopped, hempty, -⟩
          exact .lost hstopped hempty hfatal
  | ok gain =>
      apply Tells.done
      cases s.inquiry query with
      | unasked hcommand hquery =>
          rw [hquery]
          exact hrunning
      | failed hcommand hask hquery hfailed =>
          rw [houtcome] at hfailed
          cases hfailed
      | useless hcommand hask hquery hfailed =>
          rw [houtcome] at hfailed
          cases hfailed
      | gained hcommand hask hquery =>
          rcases exists_live_of_ask hask with ⟨x, -, -, rfl⟩
          rw [hquery]
          rfl

end Session
end GhciBridge
