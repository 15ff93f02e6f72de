import GhciBridge.Proofs.Session.Delivery
import GhciBridge.Proofs.Session.Report
import GhciBridge.Proofs.Session.Trail

/-!
# Registered breakpoints

Breakpoints are registered by the places they were asked for.  Which ones are can be
told from the outcomes of the operations: a breakpoint is registered at a place if a
request there was given it, and nothing has taken it away since.

Requests at several places may be given the same breakpoint.  Its removal at one of
them forgets that request alone, and the others stay.
-/

namespace GhciBridge

namespace Breakpoints

/-- No place is registered twice. -/
def Distinct (points : Breakpoints) : Prop :=
  (points.entries.map Prod.fst).Nodup

theorem find?_empty
    (spot : Spot) :
    empty.find? spot = none := (rfl)

theorem distinct_empty :
    empty.Distinct :=
  List.nodup_nil

variable {points : Breakpoints}

theorem Distinct.erase
    (h : points.Distinct) (spot : Spot) :
    (points.erase spot).Distinct :=
  h.sublist (List.filter_sublist.map Prod.fst)

theorem Distinct.insert
    (h : points.Distinct) (spot : Spot) (point : Breakpoint) :
    (points.insert spot point).Distinct := by
  rw [Distinct, Breakpoints.insert, List.map_cons, List.nodup_cons]
  refine ⟨?_, h.erase spot⟩
  intro hmem
  rcases List.mem_map.mp hmem with ⟨entry, hentry, hspot⟩
  have hother := (List.mem_filter.mp hentry).2
  rw [decide_eq_true_eq] at hother
  exact hother hspot

theorem Distinct.mem_entries_iff
    (h : points.Distinct) {spot : Spot} {point : Breakpoint} :
    (spot, point) ∈ points.entries ↔ points.find? spot = some point := by
  rcases points with ⟨entries⟩
  rw [Distinct] at h
  rw [find?]
  induction entries with
  | nil => simp
  | cons entry entries ih =>
      rw [List.map_cons, List.nodup_cons] at h
      rw [List.mem_cons, List.find?_cons]
      by_cases hspot : entry.1 = spot
      · subst hspot
        have habsent : (entry.1, point) ∉ entries :=
          fun hmem => h.1 (List.mem_map.mpr ⟨_, hmem, rfl⟩)
        simp [habsent, Prod.ext_iff, eq_comm]
      · have hne : (spot, point) ≠ entry := by
          rintro rfl
          exact hspot rfl
        rw [decide_eq_false hspot]
        simp only [hne, false_or]
        exact ih h.2

/-- The listed breakpoints are those registered at some place. -/
theorem Distinct.mem_toList_iff
    (h : points.Distinct) {point : Breakpoint} :
    point ∈ points.toList ↔ ∃ spot, points.find? spot = some point := by
  rw [toList, List.mem_mergeSort, List.mem_map]
  constructor
  · rintro ⟨⟨spot, other⟩, hmem, rfl⟩
    exact ⟨spot, h.mem_entries_iff.mp hmem⟩
  · rintro ⟨spot, hfind⟩
    exact ⟨(spot, point), h.mem_entries_iff.mpr hfind, rfl⟩

end Breakpoints

namespace Session

/-!
## What outcomes tell of a place
-/

/-- The request at a place that was given a breakpoint. -/
def grant (spot : Spot) (point : Breakpoint) : Operation × Except Fault Gain :=
  (.query (.setBreakpoint spot.1 spot.2), .ok (.breakpoint point))

theorem grant_inj
    {spot other : Spot} {point another : Breakpoint} :
    grant spot point = grant other another ↔ spot = other ∧ point = another := by
  constructor
  · rcases spot with ⟨module, line⟩
    rcases other with ⟨place, number⟩
    intro h
    cases h
    exact ⟨rfl, rfl⟩
  · rintro ⟨rfl, rfl⟩
    rfl

/-- Whether an operation with its outcome takes away the breakpoint of a place, or puts
another one there. -/
def voids (spot : Spot) : Operation × Except Fault Gain → Bool
  | (_, .error fault) => fault.isFatal
  | (.stop, .ok _) => true
  | (.query (.load _), .ok _) => true
  | (.query (.setBreakpoint module line), .ok (.breakpoint _)) => (module, line) = spot
  | (.query (.removeBreakpoint module line), .ok (.removed true)) => (module, line) = spot
  | _ => false

/-- A request at a place was given a breakpoint, which nothing has taken away since. -/
def InForce (journal : List (Operation × Except Fault Gain)) (spot : Spot)
    (point : Breakpoint) : Prop :=
  ∃ front behind, journal = front ++ grant spot point :: behind ∧
    ∀ entry ∈ behind, voids spot entry = false

theorem not_inForce_nil
    (spot : Spot) (point : Breakpoint) :
    ¬ InForce [] spot point := by
  rintro ⟨front, behind, hjournal, -⟩
  exact List.cons_ne_nil _ _ (List.append_eq_nil_iff.mp hjournal.symm).2

theorem inForce_concat_iff
    {journal : List (Operation × Except Fault Gain)} {entry : Operation × Except Fault Gain}
    {spot : Spot} {point : Breakpoint} :
    InForce (journal ++ [entry]) spot point ↔
      entry = grant spot point ∨ voids spot entry = false ∧ InForce journal spot point := by
  constructor
  · rintro ⟨front, behind, hjournal, hbehind⟩
    rcases List.eq_nil_or_concat behind with rfl | ⟨between, last, rfl⟩
    · exact .inl (List.append_inj_right' hjournal rfl |> List.cons.inj |>.1)
    · rw [List.concat_eq_append, ← List.cons_append, ← List.append_assoc] at hjournal
      rcases List.append_inj' hjournal rfl with ⟨rfl, hlast⟩
      cases hlast
      rw [List.concat_eq_append, List.forall_mem_append, List.forall_mem_singleton] at hbehind
      exact .inr ⟨hbehind.2, front, between, rfl, hbehind.1⟩
  · rintro (rfl | ⟨hkept, front, behind, rfl, hbehind⟩)
    · exact ⟨journal, [], rfl, List.forall_mem_nil _⟩
    · refine ⟨front, behind ++ [entry], ?_, ?_⟩
      · rw [List.append_assoc, List.cons_append]
      · exact List.forall_mem_append.mpr ⟨hbehind, List.forall_mem_singleton.mpr hkept⟩

/-- A gain registers and removes no more than it tells. -/
theorem find?_after_iff
    (known : Knowledge) (operation : Operation) (gain : Gain) {spot : Spot} {point : Breakpoint} :
    (known.after operation gain).breakpoints.find? spot = some point ↔
      (operation, .ok gain) = grant spot point ∨
        voids spot (operation, .ok gain) = false ∧ known.breakpoints.find? spot = some point := by
  cases operation with
  | query query =>
      cases query with
      | setBreakpoint module line =>
          cases gain with
          | breakpoint other =>
              simp only [Knowledge.after, Breakpoints.find?_insert, voids, grant]
              by_cases hspot : (module, line) = spot
              · subst hspot
                simp
              · have hother : ¬ (module = spot.1 ∧ line = spot.2) :=
                  fun h => hspot (Prod.ext h.1 h.2)
                simp [hspot, hother]
          | _ => simp [Knowledge.after, voids, grant]
      | removeBreakpoint module line =>
          cases gain with
          | removed found =>
              cases found with
              | true =>
                  simp only [Knowledge.after, Breakpoints.find?_erase, voids, grant]
                  by_cases hspot : (module, line) = spot
                  · simp [hspot]
                  · simp [hspot]
              | false => simp [Knowledge.after, voids, grant]
          | _ => simp [Knowledge.after, voids, grant]
      | load path => simp [Knowledge.after, voids, grant, Breakpoints.find?_empty]
      | history =>
          cases gain with
          | _ => simp [Knowledge.after, voids, grant]
      | _ => simp [Knowledge.after, voids, grant]
  | stop => simp [Knowledge.after, voids, grant, Breakpoints.find?_empty]
  | _ => simp [Knowledge.after, voids, grant]

theorem distinct_after
    {known : Knowledge} (h : known.breakpoints.Distinct) (operation : Operation) (gain : Gain) :
    (known.after operation gain).breakpoints.Distinct := by
  unfold Knowledge.after
  split
  · exact h
  · exact Breakpoints.distinct_empty
  · exact h.insert _ _
  · exact h.erase _
  · exact h
  · exact h
  · exact h
  · exact Breakpoints.distinct_empty
  · exact h

/-- What is registered after an operation with the given outcome. -/
def Knowledge.registered (known : Knowledge) (operation : Operation) :
    Except Fault Gain → Breakpoints
  | .ok gain => (known.after operation gain).breakpoints
  | .error fault => if fault.isFatal then .empty else known.breakpoints

theorem find?_registered_iff
    (known : Knowledge) (operation : Operation) (outcome : Except Fault Gain) {spot : Spot}
    {point : Breakpoint} :
    (known.registered operation outcome).find? spot = some point ↔
      (operation, outcome) = grant spot point ∨
        voids spot (operation, outcome) = false ∧ known.breakpoints.find? spot = some point := by
  cases outcome with
  | ok gain => exact find?_after_iff known operation gain
  | error fault =>
      cases hfatal : fault.isFatal with
      | true => simp [Knowledge.registered, grant, voids, hfatal, Breakpoints.find?_empty]
      | false => simp [Knowledge.registered, grant, voids, hfatal]

theorem distinct_registered
    {known : Knowledge} (h : known.breakpoints.Distinct) (operation : Operation)
    (outcome : Except Fault Gain) :
    (known.registered operation outcome).Distinct := by
  cases outcome with
  | ok gain => exact distinct_after h operation gain
  | error fault =>
      rw [Knowledge.registered]
      split
      · exact Breakpoints.distinct_empty
      · exact h

/-!
## Runs
-/

section Runs

variable {η : Type} [Host η]

theorem breakpoints_apply
    {s : Session η} (hsound : s.IsSound) (operation : Operation) :
    (s.apply operation).breakpoints =
      s.knowledge.registered operation (s.outcome operation) := by
  have hreports := (reports_apply hsound operation).1
  cases houtcome : s.outcome operation with
  | ok gain => exact congrArg Knowledge.breakpoints (hreports.gained gain houtcome)
  | error fault =>
      rw [Knowledge.registered]
      cases hfatal : fault.isFatal with
      | true => exact (hreports.lost fault houtcome hfatal).2.1
      | false => exact congrArg Knowledge.breakpoints (hreports.refused fault houtcome hfatal).2

theorem distinct_breakpoints_after
    {s : Session η} (hsound : s.IsSound) (h : s.breakpoints.Distinct)
    (operations : List Operation) :
    (s.after operations).breakpoints.Distinct := by
  induction operations generalizing s with
  | nil => exact h
  | cons operation operations ih =>
      refine ih (reports_apply hsound operation).2 ?_
      rw [breakpoints_apply hsound]
      exact distinct_registered h operation _

/-- If the outcomes of the past tell what is registered, they still do with those of
further operations. -/
theorem registered_after_iff
    {s : Session η} (hsound : s.IsSound) {past : List (Operation × Except Fault Gain)}
    (hpast : ∀ spot point, s.breakpoints.find? spot = some point ↔ InForce past spot point)
    (operations : List Operation) (spot : Spot) (point : Breakpoint) :
    (s.after operations).breakpoints.find? spot = some point ↔
      InForce (past ++ s.journal operations) spot point := by
  induction operations generalizing s past with
  | nil =>
      rw [journal, List.append_nil]
      exact hpast spot point
  | cons operation operations ih =>
      rw [journal, List.append_cons]
      apply ih (reports_apply hsound operation).2
      intro spot point
      rw [breakpoints_apply hsound, find?_registered_iff, inForce_concat_iff]
      exact or_congr_right (and_congr_right fun _ => hpast spot point)

/-- In a session that began with no breakpoints the registered ones are those in
force. -/
theorem registered_iff_inForce
    (config : Config) (module : Option Text) (host : η) (operations : List Operation)
    (spot : Spot) (point : Breakpoint) :
    let s := Session.new config module host
    (s.after operations).breakpoints.find? spot = some point ↔
      InForce (s.journal operations) spot point := by
  intro s
  have hnew : ∀ spot point, s.breakpoints.find? spot = some point ↔ InForce [] spot point := by
    intro spot point
    constructor
    · intro hfind
      cases hfind
    · exact fun hforce => absurd hforce (not_inForce_nil spot point)
  exact registered_after_iff (fun _ => rfl) hnew operations spot point

theorem mem_listed_iff
    (config : Config) (module : Option Text) (host : η) (operations : List Operation)
    (point : Breakpoint) :
    let s := Session.new config module host
    point ∈ (s.after operations).breakpoints.toList ↔
      ∃ spot, InForce (s.journal operations) spot point := by
  intro s
  have hdistinct : (s.after operations).breakpoints.Distinct :=
    distinct_breakpoints_after (fun _ => rfl) Breakpoints.distinct_empty operations
  rw [hdistinct.mem_toList_iff]
  exact exists_congr fun spot => registered_iff_inForce config module host operations spot point

/-!
## Removals
-/

/-- A removal that succeeds has told the interpreter to delete the breakpoint that was
registered. -/
theorem exists_deleted
    {s : Session η} {module : Text} {line : Nat}
    (h : s.outcome (.query (.removeBreakpoint module line)) = .ok (.removed true)) :
    ∃ point, s.breakpoints.find? (module, line) = some point ∧
      (s.apply (.query (.removeBreakpoint module line))).link.host =
        Peer.fed s.link.host [inputLine (Command.deleteBreakpoint point.number).payload] := by
  have h : s.queryOutcome (.removeBreakpoint module line) = .ok (.removed true) := h
  cases s.inquiry (.removeBreakpoint module line) with
  | unasked hcommand hquery houtcome =>
      rw [houtcome] at h
      cases h
  | failed hcommand hask hquery houtcome =>
      rw [houtcome] at h
      cases h
  | useless hcommand hask hquery houtcome =>
      rw [houtcome] at h
      cases h
  | gained hcommand hask hquery =>
      rcases Option.map_eq_some_iff.mp hcommand with ⟨point, hpoint, rfl⟩
      rcases exists_live_of_ask hask with ⟨x, hlink, hfault, rfl⟩
      have hpeer := Exchange.peer_perform x (.deleteBreakpoint point.number)
      rw [List.filter_cons_of_pos (Exchange.writes_of_perform hfault)] at hpeer
      have hhost : (s.apply (.query (.removeBreakpoint module line))).link.host =
          (x.perform (.deleteBreakpoint point.number)).exchange.peer := by
        rw [apply, hquery]
        rfl
      refine ⟨point, hpoint, ?_⟩
      rw [hhost, hpeer, host_of_live hlink]
      rfl

/-- A removal that succeeds forgets the request at its place and no other.  So the number
of the deleted breakpoint is still listed exactly if a request in force at another place
was given the same number. -/
theorem deleted_number_unlisted_iff
    (config : Config) (module : Option Text) (host : η) (operations : List Operation)
    (place : Text) (line : Nat)
    (hremoved : ((Session.new config module host).after operations).outcome
      (.query (.removeBreakpoint place line)) = .ok (.removed true)) :
    let past := (Session.new config module host).journal operations
    let s := (Session.new config module host).after operations
    let t := s.apply (.query (.removeBreakpoint place line))
    ∃ point, InForce past (place, line) point ∧
      t.link.host =
        Peer.fed s.link.host [inputLine (Command.deleteBreakpoint point.number).payload] ∧
      (∀ other, other ∈ t.breakpoints.toList ↔
        ∃ spot, spot ≠ (place, line) ∧ InForce past spot other) ∧
      ((∀ other ∈ t.breakpoints.toList, other.number ≠ point.number) ↔
        ∀ spot other, spot ≠ (place, line) → InForce past spot other →
          other.number ≠ point.number) := by
  intro past s t
  rcases exists_deleted hremoved with ⟨point, hpoint, hhost⟩
  have hlisted : ∀ other, other ∈ t.breakpoints.toList ↔
      ∃ spot, spot ≠ (place, line) ∧ InForce past spot other := by
    intro other
    have hmem := mem_listed_iff config module host
      (operations ++ [.query (.removeBreakpoint place line)]) other
    simp only [after_append, journal_append] at hmem
    refine hmem.trans (exists_congr fun spot => ?_)
    -- the removal at the end of the journal grants nothing and voids its own place only
    rw [journal, journal, inForce_concat_iff, hremoved]
    constructor
    · rintro (hgrant | ⟨hkept, hforce⟩)
      · cases hgrant
      · exact ⟨fun hspot => of_decide_eq_false hkept hspot.symm, hforce⟩
    · rintro ⟨hspot, hforce⟩
      exact .inr ⟨decide_eq_false fun h => hspot h.symm, hforce⟩
  refine ⟨point, ?_, hhost, hlisted, ?_⟩
  · exact (registered_iff_inForce config module host operations (place, line) point).mp hpoint
  · constructor
    · intro h spot other hspot hforce
      exact h other ((hlisted other).mpr ⟨spot, hspot, hforce⟩)
    · intro h other hother
      rcases (hlisted other).mp hother with ⟨spot, hspot, hforce⟩
      exact h spot other hspot hforce

end Runs

/-!
## Two requests
-/

/-- An interpreter that gives the breakpoint 0 to the first request. -/
def secondAnswered (second : String) : Script where
  path := "ghci".toList
  banner := []
  startup := .ofText []
  answers := [.ofText "Breakpoint 0 activated at A.hs:3:12-20\n".toList, .ofText second.toList]
  sentinel := Config.default.sentinel

def unstarted (second : String) : Session Interpreter :=
  Session.new Config.default none (Interpreter.ofScript (secondAnswered second))

/-- A breakpoint is asked for at the lines 3 and 2. -/
def twoRequests : List Operation :=
  [.start, .query (.setBreakpoint "Main".toList 3), .query (.setBreakpoint "Main".toList 2)]

def secondRemoval : Operation :=
  .query (.removeBreakpoint "Main".toList 2)

def atLineThree : Breakpoint :=
  ⟨0, ⟨"A.hs".toList, 3, 12, 3, 20⟩⟩

def atLineTwo : Breakpoint :=
  ⟨1, ⟨"A.hs".toList, 2, 8, 2, 15⟩⟩

def ownAnswer : String := "Breakpoint 1 activated at A.hs:2:8-15\n"

def sharedAnswer : String := "Breakpoint 0 was already set at A.hs:3:12-20\n"

theorem removed_own :
    ((unstarted ownAnswer).after twoRequests).outcome secondRemoval = .ok (.removed true) := by
  rfl

theorem journal_own :
    (unstarted ownAnswer).journal twoRequests =
      [(.start, .ok .nothing), grant ("Main".toList, 3) atLineThree] ++
        [grant ("Main".toList, 2) atLineTwo] := by
  rfl

theorem eq_atLineThree_of_inForce
    {spot : Spot} {point : Breakpoint} (hspot : spot ≠ ("Main".toList, 2))
    (h : InForce ((unstarted ownAnswer).journal twoRequests) spot point) :
    point = atLineThree := by
  rw [journal_own, inForce_concat_iff] at h
  rcases h with hgrant | ⟨-, h⟩
  · exact absurd (grant_inj.mp hgrant).1.symm hspot
  · rw [← List.singleton_append, inForce_concat_iff] at h
    rcases h with hgrant | ⟨-, h⟩
    · exact (grant_inj.mp hgrant).2.symm
    · rw [← List.nil_append [_], inForce_concat_iff] at h
      rcases h with hgrant | ⟨-, h⟩
      · cases hgrant
      · exact absurd h (not_inForce_nil spot point)

theorem eq_atLineTwo_of_inForce
    {point : Breakpoint}
    (h : InForce ((unstarted ownAnswer).journal twoRequests) ("Main".toList, 2) point) :
    point = atLineTwo := by
  rw [journal_own, inForce_concat_iff] at h
  rcases h with hgrant | ⟨hkept, -⟩
  · exact (grant_inj.mp hgrant).2.symm
  · cases hkept

/-- With a breakpoint for each request, the number of the removed one is gone. -/
theorem own_number_unlisted :
    ((unstarted ownAnswer).after twoRequests).outcome secondRemoval = .ok (.removed true) ∧
      ∀ other ∈ (((unstarted ownAnswer).after twoRequests).apply secondRemoval).breakpoints.toList,
        other.number ≠ 1 := by
  refine ⟨removed_own, ?_⟩
  rcases deleted_number_unlisted_iff Config.default none _ twoRequests "Main".toList 2 removed_own
    with ⟨point, hforce, -, -, hunlisted⟩
  cases eq_atLineTwo_of_inForce hforce
  apply hunlisted.mpr
  intro spot other hspot hother
  rw [eq_atLineThree_of_inForce hspot hother]
  decide

/-- With one breakpoint for both requests, the breakpoint 0 is deleted and is still
listed for the other one. -/
theorem deleted_breakpoint_listed :
    ((unstarted sharedAnswer).after twoRequests).outcome secondRemoval = .ok (.removed true) ∧
      (((unstarted sharedAnswer).after twoRequests).apply secondRemoval).link.host.log =
        ((unstarted sharedAnswer).after twoRequests).link.host.log ++
          [.line ":delete 0".toList] ∧
      (((unstarted sharedAnswer).after twoRequests).apply secondRemoval).breakpoints.toList =
        [atLineThree] ∧
      atLineThree.number = 0 := by
  refine ⟨rfl, ?_, ?_, rfl⟩
  · decide +kernel
  · decide +kernel

end Session
end GhciBridge
