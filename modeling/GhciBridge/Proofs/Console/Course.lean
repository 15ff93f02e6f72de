import GhciBridge.Console.Basic

/-!
# The course of a conversation

A conversation goes from prompt to prompt.  The course lists what is there at each of
them: the session, and the line that is read.  All that a conversation prints, and how
it ends, follows from its course.
-/

namespace GhciBridge
namespace Console

variable {η : Type}

/-!
## Prompts
-/

/-- A moment at the prompt: the session there, and the line that is read if there is
one left. -/
structure Moment (η : Type) where
  session : Session η
  line : Option (List UInt8)

/-- What a line of input comes to. -/
inductive Heard where
  | ended
  | noText
  | misused (misuse : Misuse)
  | request (request : Request)

namespace Moment

def heard (m : Moment η) : Heard :=
  match m.line with
  | none => .ended
  | some bytes =>
      match decodeUtf8? bytes with
      | none => .noText
      | some text =>
          match Request.read text with
          | .error misuse => .misused misuse
          | .ok request => .request request

/-- The conversation is over because the input is, or by request. -/
def IsOver (m : Moment η) : Prop :=
  m.heard = .ended ∨ m.heard = .request .quit

variable [Peer η]

/-- The step of the session, if a request is carried out. -/
def step? (m : Moment η) : Option (Session.Step η Response) :=
  match m.heard with
  | .request request => if request = .quit then none else some (carryOut m.session request)
  | _ => none

/-- The fault that ends the conversation at this moment. -/
def fault? (m : Moment η) : Option Fault :=
  match m.heard, m.step? with
  | .noText, _ => some .io
  | _, some (_, .error fault) => if fault.isFatal then some fault else none
  | _, _ => none

/-- The session behind this moment. -/
def after (m : Moment η) : Session η :=
  match m.step? with
  | some step => step.1
  | none => m.session

/-- Whether another prompt follows. -/
def goesOn (m : Moment η) : Bool :=
  match m.heard with
  | .ended => false
  | .noText => false
  | .misused _ => true
  | .request request => request ≠ .quit && m.fault?.isNone

/-- What is printed behind the prompt. -/
def printed (json : Bool) (m : Moment η) : Text :=
  match m.heard, m.step? with
  | .misused misuse, _ => lineText (complaint misuse.message)
  | _, some (_, .ok response) =>
      ((response.render json).map fun text => lineText (Text.trimEnd text)).getD []
  | _, some (_, .error fault) => lineText (complaint fault.message)
  | _, none => []

/-!
### A request that is carried out
-/

variable {m : Moment η}

theorem step?_of_request
    {request : Request} (hheard : m.heard = .request request) (hquit : request ≠ .quit) :
    m.step? = some (carryOut m.session request) := by
  rw [step?, hheard]
  exact if_neg hquit

theorem exists_request
    {step : Session.Step η Response} (hstep : m.step? = some step) :
    ∃ request, m.heard = .request request ∧ request ≠ .quit := by
  unfold step? at hstep
  split at hstep
  · next request hheard =>
      split at hstep
      · cases hstep
      · exact ⟨request, hheard, ‹_›⟩
  · cases hstep

theorem fault?_of_ok
    {t : Session η} {response : Response} (hstep : m.step? = some (t, .ok response)) :
    m.fault? = none := by
  rcases exists_request hstep with ⟨request, hheard, -⟩
  rw [fault?, hheard, hstep]

theorem fault?_of_error
    {t : Session η} {fault : Fault} (hstep : m.step? = some (t, .error fault)) :
    m.fault? = if fault.isFatal then some fault else none := by
  rcases exists_request hstep with ⟨request, hheard, -⟩
  rw [fault?, hheard, hstep]

theorem goesOn_of_step
    {step : Session.Step η Response} (hstep : m.step? = some step) :
    m.goesOn = m.fault?.isNone := by
  rcases exists_request hstep with ⟨request, hheard, hquit⟩
  rw [goesOn, hheard]
  simp only [hquit, ne_eq, not_false_eq_true, decide_true, Bool.true_and]

theorem after_of_step
    {step : Session.Step η Response} (hstep : m.step? = some step) :
    m.after = step.1 := by
  rw [after, hstep]

end Moment

variable [Peer η]

/-- The moments of a conversation over the given lines. -/
def course : List (List UInt8) → Session η → List (Moment η)
  | [], s => [⟨s, none⟩]
  | bytes :: lines, s =>
      let m : Moment η := ⟨s, some bytes⟩
      if m.goesOn then m :: course lines m.after else [m]

/-- At each line the conversation takes the turn of that moment, and goes on or ends. -/
theorem converse_cons
    (json : Bool) (bytes : List UInt8) (lines : List (List UInt8)) (s : Session η) :
    let m : Moment η := ⟨s, some bytes⟩
    converse json (bytes :: lines) s =
      if m.goesOn then (converse json lines m.after).after (prompt ++ m.printed json)
      else ⟨prompt ++ m.printed json, m.fault?, m.after⟩ := by
  intro m
  have hsession : m.session = s := rfl
  rw [converse]
  cases hdecode : decodeUtf8? bytes with
  | none =>
      have hheard : m.heard = .noText := by simp only [m, Moment.heard, hdecode]
      simp [Moment.goesOn, Moment.printed, Moment.fault?, Moment.after, Moment.step?, hheard,
        hsession]
  | some text =>
      cases hread : Request.read text with
      | error misuse =>
          have hheard : m.heard = .misused misuse := by
            simp only [m, Moment.heard, hdecode, hread]
          simp [Moment.goesOn, Moment.printed, Moment.after, Moment.step?, hheard, hsession, hread]
      | ok request =>
          have hheard : m.heard = .request request := by
            simp only [m, Moment.heard, hdecode, hread]
          by_cases hquit : request = .quit
          · simp [Moment.goesOn, Moment.printed, Moment.fault?, Moment.after, Moment.step?, hheard,
              hsession, hread, hquit]
          · have hstep := Moment.step?_of_request hheard hquit
            rcases hcarried : carryOut s request with ⟨t, result⟩
            rw [hsession, hcarried] at hstep
            rw [Moment.goesOn_of_step hstep, Moment.after_of_step hstep]
            simp only [hread, hquit, if_false, hcarried]
            cases result with
            | ok response =>
                rw [Moment.fault?_of_ok hstep, Moment.printed, hheard, hstep]
                rfl
            | error fault =>
                rw [Moment.fault?_of_error hstep, Moment.printed, hheard, hstep]
                cases hfatal : fault.isFatal with
                | true => simp [hfatal]
                | false => simp [hfatal]

/-- A course ends with the first moment behind which there is no other prompt.  What is
printed at its moments, one after the other, is all that a conversation prints, and the
last moment says how it ends. -/
theorem exists_last
    (json : Bool) (lines : List (List UInt8)) (s : Session η) :
    ∃ front last, course lines s = front ++ [last] ∧
      (∀ m ∈ front, m.goesOn = true) ∧ last.goesOn = false ∧
      converse json lines s =
        ⟨(front ++ [last]).flatMap fun m => prompt ++ m.printed json,
          last.fault?, last.after⟩ := by
  induction lines generalizing s with
  | nil =>
      refine ⟨[], ⟨s, none⟩, rfl, List.forall_mem_nil _, rfl, ?_⟩
      rw [List.nil_append, List.flatMap_singleton]
      rfl
  | cons bytes lines ih =>
      have hturn := converse_cons json bytes lines s
      rw [course]
      generalize (⟨s, some bytes⟩ : Moment η) = m at hturn
      simp only at hturn ⊢
      cases hgoes : m.goesOn with
      | false =>
          rw [hgoes] at hturn
          refine ⟨[], m, rfl, List.forall_mem_nil _, hgoes, ?_⟩
          rw [List.nil_append, List.flatMap_singleton]
          exact hturn
      | true =>
          rw [hgoes] at hturn
          rcases ih m.after with ⟨front, last, hcourse, hfront, hlast, hconverse⟩
          refine ⟨m :: front, last, ?_, List.forall_mem_cons.mpr ⟨hgoes, hfront⟩, hlast, ?_⟩
          · rw [hcourse]
            rfl
          · rw [hturn, hconverse, List.cons_append, List.flatMap_cons]
            rfl

theorem out_converse
    (json : Bool) (lines : List (List UInt8)) (s : Session η) :
    (converse json lines s).out = (course lines s).flatMap fun m => prompt ++ m.printed json := by
  rcases exists_last json lines s with ⟨front, last, hcourse, -, -, hconverse⟩
  rw [hconverse, hcourse]

/-- What is behind the last line that was read makes no difference. -/
theorem converse_take_append
    (json : Bool) (others : List (List UInt8)) {lines : List (List UInt8)} {s : Session η}
    (hread : ∀ m ∈ course lines s, m.line ≠ none) :
    converse json (lines.take (course lines s).length ++ others) s = converse json lines s := by
  induction lines generalizing s with
  | nil => exact absurd rfl (hread ⟨s, none⟩ (List.mem_singleton_self _))
  | cons bytes lines ih =>
      have hturn := converse_cons json bytes lines s
      have hturn' := fun behind => converse_cons json bytes behind s
      rw [course] at hread ⊢
      generalize (⟨s, some bytes⟩ : Moment η) = m at hturn hturn' hread
      simp only at hturn hturn' hread ⊢
      cases hgoes : m.goesOn with
      | false =>
          rw [hgoes] at hturn hturn'
          rw [hturn]
          exact hturn' _
      | true =>
          rw [hgoes] at hturn hturn' hread
          simp only [if_true, List.forall_mem_cons] at hread
          rw [hturn, if_pos rfl, List.length_cons, List.take_succ_cons, List.cons_append, hturn',
            ih hread.2]

/-- The steps of the requests that are carried out. -/
def executed (lines : List (List UInt8)) (s : Session η) : List (Session.Step η Response) :=
  (course lines s).filterMap Moment.step?

theorem executed_eq
    {lines : List (List UInt8)} {s : Session η} {front : List (Moment η)} {last : Moment η}
    (hcourse : course lines s = front ++ [last]) :
    executed lines s = front.filterMap Moment.step? ++ last.step?.toList := by
  rw [executed, hcourse, List.filterMap_append, List.filterMap_cons]
  cases last.step? with
  | none => rfl
  | some step => rfl

end Console
end GhciBridge
