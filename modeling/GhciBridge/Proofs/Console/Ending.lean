import GhciBridge.Proofs.Console.Course
import GhciBridge.Proofs.Session.Running
import GhciBridge.Proofs.Wire.Stream

/-!
# Console and session end together

A request that is carried out while the session runs leaves it running unless it ends
in a fatal fault, and that ends the conversation too.  So the session runs at every
prompt, and in the end unless the last of all requests broke it.
-/

namespace GhciBridge
namespace Console

variable {η : Type} [Host η]

/-!
## Requests of a running session
-/

theorem tells_of_query
    {α : Type} {s : Session η} {step : Session.Step η α} {gain : α → Session.Gain}
    (hrunning : s.isRunning = true) (query : Session.Query) (hquery : s.query query = step.1)
    (houtcome : s.queryOutcome query = step.2.map gain) :
    Session.Tells step := by
  have htells := Session.tells_query hrunning query
  rw [hquery, houtcome] at htells
  exact Session.tells_map_iff.mp htells

/-- A request that is one query. -/
theorem tells_respond
    {α : Type} {s : Session η} {step : Session.Step η α} {gain : α → Session.Gain}
    (hrunning : s.isRunning = true) (query : Session.Query) (hquery : s.query query = step.1)
    (houtcome : s.queryOutcome query = step.2.map gain) (f : α → Response) :
    Session.Tells (respond f step) :=
  Session.tells_map_iff.mpr (tells_of_query hrunning query hquery houtcome)

/-- The second of the two queries is made only if the first one left the session
running. -/
theorem tells_print
    {s : Session η} (hrunning : s.isRunning = true) (expression : Text) :
    Session.Tells (print s expression) := by
  have hevaluate : ∀ {t : Session η} (type : Option Text), t.isRunning = true →
      Session.Tells (t.evaluate expression type) := by
    intro t type hrunning
    exact tells_of_query hrunning (.evaluate expression type) rfl rfl
  have htype : Session.Tells (s.typeOf expression) :=
    tells_of_query hrunning (.typeOf expression) rfl rfl
  rw [print]
  generalize s.typeOf expression = step at htype
  cases htype with
  | done hrunning => exact hevaluate _ hrunning
  | refused hrunning hmild hknown =>
      simp only [hmild]
      exact hevaluate none hrunning
  | lost hstopped hempty hfatal =>
      simp only [hfatal, if_true]
      exact .lost hstopped hempty hfatal

theorem tells_carryOut
    {s : Session η} (hrunning : s.isRunning = true) (request : Request) :
    Session.Tells (carryOut s request) := by
  cases request with
  | empty => exact .done hrunning
  | quit => exact .done hrunning
  | help => exact .done hrunning
  | breakpoints => exact .done hrunning
  | step request =>
      apply Session.Tells.refused hrunning rfl
      intro h
      cases h
  | setBreakpoint module line => exact tells_respond hrunning (.setBreakpoint module line) rfl rfl _
  | deleteBreakpoint module line =>
      exact tells_respond hrunning (.removeBreakpoint module line) rfl rfl _
  | trace expression => exact tells_respond hrunning (.trace expression) rfl rfl _
  | typeOf expression => exact tells_respond hrunning (.typeOf expression) rfl rfl _
  | print expression => exact Session.tells_map_iff.mpr (tells_print hrunning expression)
  | force expression => exact tells_respond hrunning (.force expression) rfl rfl _
  | history => exact tells_respond hrunning .history rfl rfl _
  | back => exact tells_respond hrunning (.move .back) rfl rfl _
  | forward => exact tells_respond hrunning (.move .forward) rfl rfl _
  | bindings => exact tells_respond hrunning .bindings rfl rfl _
  | load path => exact tells_respond hrunning (.load path) rfl rfl _
  | raw text => exact tells_respond hrunning (.raw text) rfl rfl _

/-!
## Moments of a running session
-/

/-- The turns that a conversation can take while the session runs. -/
inductive Turn (m : Moment η) : Prop where
  | finished
      (hover : m.IsOver)
      (hgoes : m.goesOn = false)
      (hstep : m.step? = none)
      (hfault : m.fault? = none)
  | on
      (hover : ¬ m.IsOver)
      (hgoes : m.goesOn = true)
      (hrunning : m.after.isRunning = true)
      (hstep : ∀ t fault, m.step? = some (t, .error fault) →
        fault.isFatal = false ∧ fault ≠ .notRunning)
  | broken {t : Session η} {fault : Fault}
      (hover : ¬ m.IsOver)
      (hgoes : m.goesOn = false)
      (hstep : m.step? = some (t, .error fault))
      (hfault : m.fault? = some fault)
      (hfatal : fault.isFatal = true)
      (hstopped : t.isRunning = false)
      (hempty : t.breakpoints = .empty)

omit [Host η] in
theorem heard_ne_noText
    {bytes : List UInt8} (hbytes : decodeUtf8? bytes ≠ none) (s : Session η) :
    (⟨s, some bytes⟩ : Moment η).heard ≠ .noText := by
  rcases Option.ne_none_iff_exists'.mp hbytes with ⟨text, hdecode⟩
  simp only [Moment.heard, hdecode]
  intro h
  cases hread : Request.read text with
  | error misuse =>
      rw [hread] at h
      cases h
  | ok request =>
      rw [hread] at h
      cases h

omit [Host η] in
theorem not_isOver
    {m : Moment η} {heard : Heard} (hheard : m.heard = heard) (hended : heard ≠ .ended)
    (hquit : heard ≠ .request .quit) :
    ¬ m.IsOver := by
  rintro (hover | hover)
  · exact hended (hheard.symm.trans hover)
  · exact hquit (hheard.symm.trans hover)

theorem turn_of_tells
    {m : Moment η} {request : Request} (hheard : m.heard = .request request)
    (hquit : request ≠ .quit) (htells : Session.Tells (carryOut m.session request)) :
    Turn m := by
  have hover : ¬ m.IsOver := by
    apply not_isOver hheard
    · intro h
      cases h
    · intro h
      exact hquit (Heard.request.inj h)
  have hstep := Moment.step?_of_request hheard hquit
  generalize carryOut m.session request = step at hstep htells
  cases htells with
  | done hrunning =>
      refine .on hover ?_ ?_ ?_
      · rw [Moment.goesOn_of_step hstep, Moment.fault?_of_ok hstep]
        rfl
      · rw [Moment.after_of_step hstep]
        exact hrunning
      · intro t fault h
        cases hstep.symm.trans h
  | refused hrunning hmild hknown =>
      refine .on hover ?_ ?_ ?_
      · rw [Moment.goesOn_of_step hstep, Moment.fault?_of_error hstep, hmild]
        rfl
      · rw [Moment.after_of_step hstep]
        exact hrunning
      · intro t fault h
        cases hstep.symm.trans h
        exact ⟨hmild, hknown⟩
  | @lost t fault hstopped hempty hfatal =>
      have hfault : m.fault? = some fault := by
        rw [Moment.fault?_of_error hstep]
        exact if_pos hfatal
      refine .broken hover ?_ hstep hfault hfatal hstopped hempty
      rw [Moment.goesOn_of_step hstep, hfault]
      rfl

theorem turn
    {m : Moment η} (hrunning : m.session.isRunning = true) (htext : m.heard ≠ .noText) :
    Turn m := by
  cases hheard : m.heard with
  | ended =>
      have hstep : m.step? = none := by rw [Moment.step?, hheard]
      refine .finished (.inl hheard) ?_ hstep ?_
      · rw [Moment.goesOn, hheard]
      · rw [Moment.fault?, hheard, hstep]
  | noText => exact absurd hheard htext
  | misused misuse =>
      have hstep : m.step? = none := by rw [Moment.step?, hheard]
      have hover : ¬ m.IsOver := by
        apply not_isOver hheard
        · intro h
          cases h
        · intro h
          cases h
      refine .on hover ?_ ?_ ?_
      · rw [Moment.goesOn, hheard]
      · rw [Moment.after, hstep]
        exact hrunning
      · intro t fault h
        cases hstep.symm.trans h
  | request request =>
      by_cases hquit : request = .quit
      · subst hquit
        have hstep : m.step? = none := by
          rw [Moment.step?, hheard]
          rfl
        refine .finished (.inr hheard) ?_ hstep ?_
        · rw [Moment.goesOn, hheard]
          rfl
        · rw [Moment.fault?, hheard, hstep]
      · exact turn_of_tells hheard hquit (tells_carryOut hrunning request)

namespace Turn

variable {m : Moment η}

theorem of_goesOn
    (h : Turn m) (hgoes : m.goesOn = true) :
    ¬ m.IsOver ∧ m.after.isRunning = true ∧
      ∀ t fault, m.step? = some (t, .error fault) → fault.isFatal = false := by
  cases h with
  | finished hover hstops => cases hstops.symm.trans hgoes
  | on hover _ hrunning hstep => exact ⟨hover, hrunning, fun t fault h => (hstep t fault h).1⟩
  | broken hover hstops => cases hstops.symm.trans hgoes

theorem step?_ne_notRunning
    (h : Turn m) (t : Session η) :
    m.step? ≠ some (t, .error .notRunning) := by
  intro hrefused
  cases h with
  | finished hover hgoes hstep => cases hstep.symm.trans hrefused
  | on hover hgoes hrunning hstep => exact (hstep t _ hrefused).2 rfl
  | broken hover hgoes hstep hfault hfatal =>
      cases hstep.symm.trans hrefused
      cases hfatal

end Turn

theorem turn_of_mem_course
    {lines : List (List UInt8)} {s : Session η} (hrunning : s.isRunning = true)
    (htext : ∀ bytes ∈ lines, decodeUtf8? bytes ≠ none) :
    ∀ m ∈ course lines s, m.session.isRunning = true ∧ Turn m := by
  induction lines generalizing s with
  | nil =>
      rw [course, List.forall_mem_singleton]
      refine ⟨hrunning, turn hrunning ?_⟩
      intro h
      cases h
  | cons bytes lines ih =>
      rw [List.forall_mem_cons] at htext
      have hturn : Turn (⟨s, some bytes⟩ : Moment η) := turn hrunning (heard_ne_noText htext.1 s)
      have hbehind := fun hgoes => ih (hturn.of_goesOn hgoes).2.1 htext.2
      have hfirst : (⟨s, some bytes⟩ : Moment η).session.isRunning = true := hrunning
      rw [course]
      generalize (⟨s, some bytes⟩ : Moment η) = m at hturn hbehind hfirst
      cases hgoes : m.goesOn with
      | false => exact List.forall_mem_singleton.mpr ⟨hfirst, hturn⟩
      | true => exact List.forall_mem_cons.mpr ⟨⟨hfirst, hturn⟩, hbehind hgoes⟩

/-!
## The end of a conversation
-/

/-- What it means that a conversation and its session end together. -/
structure EndTogether (json : Bool) (lines : List (List UInt8)) (s : Session η)
    (c : Conversation η) : Prop where
  printed : c.out = lineText help ++ (course lines s).flatMap fun m => prompt ++ m.printed json
  /-- The session runs at every prompt. -/
  running : ∀ m ∈ course lines s, m.session.isRunning = true
  finished : c.fault = none ↔ ∃ m ∈ course lines s, m.IsOver
  kept : c.fault = none → c.session.isRunning = true
  /-- A conversation ends in a fault exactly if the last request ends in a fatal one. -/
  failed :
    ∀ fault, c.fault = some fault ↔
      fault.isFatal = true ∧ ∃ t, (executed lines s).getLast? = some (t, .error fault)
  stopped :
    ∀ fault, c.fault = some fault →
      c.session.isRunning = false ∧ c.session.breakpoints = .empty ∧
        (executed lines s).getLast? = some (c.session, .error fault)
  /-- What is behind the last line that was read makes no difference. -/
  unread :
    ∀ fault, c.fault = some fault → ∀ others,
      (converse json (lines.take (course lines s).length ++ others) s).after (lineText help) = c
  answered :
    ∀ m ∈ course lines s,
      (∀ query, m.session.queryOutcome query ≠ .error .notRunning) ∧
        ∀ t, m.step? ≠ some (t, .error .notRunning)

variable {json : Bool} {lines : List (List UInt8)} {s : Session η}

theorem not_fatal_of_goesOn
    {front : List (Moment η)} (hturns : ∀ m ∈ front, Turn m)
    (hgoes : ∀ m ∈ front, m.goesOn = true) {t : Session η} {fault : Fault}
    (hstep : (t, .error fault) ∈ front.filterMap Moment.step?) :
    fault.isFatal = false := by
  rcases List.mem_filterMap.mp hstep with ⟨m, hm, hstep⟩
  exact ((hturns m hm).of_goesOn (hgoes m hm)).2.2 t fault hstep

theorem line_ne_none_of_goesOn
    {m : Moment η} (hgoes : m.goesOn = true) :
    m.line ≠ none := by
  intro hline
  rw [Moment.goesOn, Moment.heard, hline] at hgoes
  cases hgoes

theorem line_ne_none_of_step
    {m : Moment η} {step : Session.Step η Response} (hstep : m.step? = some step) :
    m.line ≠ none := by
  intro hline
  rw [Moment.step?, Moment.heard, hline] at hstep
  cases hstep

/-- The ways in which a conversation ends while its session runs at every prompt. -/
inductive Ends (lines : List (List UInt8)) (s : Session η) : Conversation η → Prop where
  | finished {out : Text} {t : Session η}
      (hover : ∃ m ∈ course lines s, m.IsOver)
      (hrunning : t.isRunning = true)
      (hmild : ∀ u fault, (u, .error fault) ∈ executed lines s → fault.isFatal = false) :
      Ends lines s ⟨out, none, t⟩
  | broken {out : Text} {t : Session η} {fault : Fault}
      (hover : ¬ ∃ m ∈ course lines s, m.IsOver)
      (hlast : (executed lines s).getLast? = some (t, .error fault))
      (hfatal : fault.isFatal = true)
      (hstopped : t.isRunning = false)
      (hempty : t.breakpoints = .empty)
      (hread : ∀ m ∈ course lines s, m.line ≠ none) :
      Ends lines s ⟨out, some fault, t⟩

/-- All moments but the last one go on, so the turn of the last one decides. -/
theorem ends_converse
    (json : Bool) (hrunning : s.isRunning = true)
    (htext : ∀ bytes ∈ lines, decodeUtf8? bytes ≠ none) :
    Ends lines s (converse json lines s) := by
  have hturns := turn_of_mem_course hrunning htext
  rcases exists_last json lines s with ⟨front, last, hcourse, hgoes, hends, hconverse⟩
  have hmem : ∀ m, m ∈ course lines s ↔ m ∈ front ∨ m = last := by
    intro m
    rw [hcourse, List.mem_append, List.mem_singleton]
  have hfront : ∀ m ∈ front, Turn m := fun m hm => (hturns m ((hmem m).mpr (.inl hm))).2
  have hexecuted := executed_eq hcourse
  rcases hturns last ((hmem last).mpr (.inr rfl)) with ⟨hkept, hturn⟩
  rw [hconverse]
  cases hturn with
  | finished hover _ hstep hfault =>
      rw [hstep, Option.toList_none, List.append_nil] at hexecuted
      rw [hfault, Moment.after, hstep]
      refine .finished ⟨last, (hmem last).mpr (.inr rfl), hover⟩ hkept ?_
      intro u fault hmem
      rw [hexecuted] at hmem
      exact not_fatal_of_goesOn hfront hgoes hmem
  | on _ hlast =>
      rw [hends] at hlast
      cases hlast
  | broken hover _ hstep hfault hfatal hstopped hempty =>
      rw [hstep, Option.toList_some] at hexecuted
      rw [hfault, Moment.after, hstep]
      refine .broken ?_ ?_ hfatal hstopped hempty ?_
      · rintro ⟨m, hm, hover'⟩
        rcases (hmem m).mp hm with hm | rfl
        · exact ((hfront m hm).of_goesOn (hgoes m hm)).1 hover'
        · exact hover hover'
      · rw [hexecuted, List.getLast?_concat]
      · intro m hm
        rcases (hmem m).mp hm with hm | rfl
        · exact line_ne_none_of_goesOn (hgoes m hm)
        · exact line_ne_none_of_step hstep

theorem decodeUtf8?_ne_none_of_mem_all
    {text : Text} {bytes : List UInt8} (h : bytes ∈ Lines.all Feed.lineBreak (encodeUtf8 text)) :
    decodeUtf8? bytes ≠ none := by
  rw [all_encodeUtf8] at h
  rcases List.mem_map.mp h with ⟨line, -, rfl⟩
  rw [decodeUtf8?_encodeUtf8]
  exact Option.some_ne_none line

/-- For every input that is a text, and whatever the interpreter says, a session that
runs when the console begins runs as long as the console does. -/
theorem ends_with_session
    (json : Bool) (text : Text) {s : Session η} (hrunning : s.isRunning = true) :
    EndTogether json (Lines.all Feed.lineBreak (encodeUtf8 text)) s
      (run json (encodeUtf8 text) s) := by
  have htext := fun bytes => @decodeUtf8?_ne_none_of_mem_all text bytes
  rw [run]
  generalize Lines.all Feed.lineBreak (encodeUtf8 text) = lines at htext
  have hturns := turn_of_mem_course hrunning htext
  have hends := ends_converse json hrunning htext
  have hprinted := congrArg (lineText help ++ ·) (out_converse json lines s)
  have hunread := fun others => @converse_take_append η _ json others lines s
  have hanswered : ∀ m ∈ course lines s,
      (∀ query, m.session.queryOutcome query ≠ .error .notRunning) ∧
        ∀ t, m.step? ≠ some (t, .error .notRunning) := by
    intro m hm
    rcases hturns m hm with ⟨hrunning, hturn⟩
    exact ⟨Session.queryOutcome_ne_notRunning hrunning, hturn.step?_ne_notRunning⟩
  generalize converse json lines s = c at hends hprinted hunread
  cases hends with
  | @finished out t hover hkept hmild =>
      have hnever : ∀ fault, (none : Option Fault) ≠ some fault := by
        intro fault h
        cases h
      refine
        { printed := hprinted
          running := fun m hm => (hturns m hm).1
          finished := iff_of_true rfl hover
          kept := fun _ => hkept
          failed := fun fault => iff_of_false (hnever fault) ?_
          stopped := fun fault h => absurd h (hnever fault)
          unread := fun fault h => absurd h (hnever fault)
          answered := hanswered }
      rintro ⟨hfatal, u, hlast⟩
      rw [hmild u fault (List.mem_of_getLast? hlast)] at hfatal
      cases hfatal
  | @broken out t fault hover hlast hfatal hstopped hempty hread =>
      refine
        { printed := hprinted
          running := fun m hm => (hturns m hm).1
          finished := iff_of_false (Option.some_ne_none fault) hover
          kept := fun h => absurd h (Option.some_ne_none fault)
          failed := fun other => ?_
          stopped := ?_
          unread := fun _ _ others => congrArg _ (hunread others hread)
          answered := hanswered }
      · rw [hlast]
        constructor
        · rintro ⟨⟩
          exact ⟨hfatal, t, rfl⟩
        · rintro ⟨-, u, hsame⟩
          cases hsame
          rfl
      · rintro _ ⟨⟩
        exact ⟨hstopped, hempty, hlast⟩

/-- An interpreter that tells one type and exits when it is asked for another. -/
def shortScript : Script where
  path := "ghci".toList
  banner := []
  startup := .ofText []
  answers := [.ofText "x :: Int\n".toList, ⟨none, none, none, true⟩]
  sentinel := Config.default.sentinel

def short : Session Interpreter :=
  (Session.new Config.default none (.ofScript shortScript)).start.1

/-- When the interpreter exits at the first query of the second request, the session
has ended, and the third line is not read. -/
theorem exit_ends_both :
    short.isRunning = true ∧
      let c := run false (encodeUtf8 "t x\np y\nt z\n".toList) short
      c.fault = some .exited ∧ c.session.isRunning = false ∧ c.session.breakpoints = .empty ∧
        c.session.link.host.log.drop 2 = [.line ":type x".toList, .line ":type y".toList] := by
  have hrunning : short.isRunning = true := rfl
  have hends := ends_with_session false "t x\np y\nt z\n".toList hrunning
  refine ⟨hrunning, ?_⟩
  intro c
  have hfault : c.fault = some .exited := by decide +kernel
  rcases hends.stopped _ hfault with ⟨hstopped, hempty, -⟩
  refine ⟨hfault, hstopped, hempty, ?_⟩
  decide +kernel

end Console
end GhciBridge
