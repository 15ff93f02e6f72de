import GhciBridge.Proofs.Answer.Buffer
import Mathlib.Data.List.Forall2

/-!
# Routines take all or nothing

On a buffer of lines every routine that reads answers either returns nothing and
leaves the buffer alone, or it takes lines off the front: the first line that is not
blank is among them, or it takes the whole buffer.  It returns what its reader finds,
and leaves what the reader leaves.
-/

namespace GhciBridge
namespace Buffer

open Answer Routine

/-!
## The routines
-/

def breakpoint : Routine Answer := do
  let lines ← buffer
  let i := skipped lines 0
  let line ← require lines[i]?
  let (number, span) ← require (breakpointReport? line)
  drain (i + 1)
  return .breakpoint number span

def stopped : Routine Answer := do
  let lines ← buffer
  let (i, span) ← require (lastStopAt? lines)
  let (bindings, last) := bindingsAt lines (i + 1)
  drain last
  return .stopped (.top ⟨span, some bindings⟩)

def typed : Routine Answer := do
  let lines ← buffer
  refuse (Diagnostic.anyError lines)
  let (entry, next) ← require (entryAt? lines (skipped lines 0))
  let (expression, type) ← require <| Annotation.split? entry
  drain next
  return .typed (Text.trim expression) (Text.trim type)

def shown : Routine Answer := do
  let lines ← buffer
  refuse (lines.isEmpty || Diagnostic.anyError lines)
  drain lines.length
  return .output (shownText lines)

def plain : Routine Answer := do
  let lines ← buffer
  refuse (Diagnostic.anyError lines)
  drain lines.length
  return .output (Text.joinLines lines)

def history : Routine Answer := do
  let lines ← buffer
  let i := skipped lines 0
  let line ← require lines[i]?
  if Text.beginsWith "Empty history.".toList (Text.trim line) then
    drain (i + 1)
    return .history []
  else
    let (frames, last) := framesAt lines i
    refuse frames.isEmpty
    drain last
    return .history frames

def bindings : Routine Answer := do
  let lines ← buffer
  refuse (Diagnostic.anyError lines)
  let (bindings, last) := bindingsAt lines (skipped lines 0)
  refuse (last < lines.length && bindings.isEmpty)
  drain last
  return .bindingList bindings

def moved : Routine Answer := do
  let lines ← buffer
  let i := skipped lines 0
  let line ← require lines[i]?
  let (span, atTop) ← require <|
    ((loggedReport? line).map fun span => (span, false)).or
      ((stopReport? line).map fun span => (span, true))
  let (bindings, last) := bindingsAt lines (i + 1)
  drain last
  return .moved ⟨span, bindings, atTop, false⟩

def payload : Routine Answer := do
  let lines ← buffer
  let i := skipped lines 0
  let line ← require lines[i]?
  let text := Text.trim line
  refuse (!Text.beginsWith ['\x7b'] text)
  let data ← require (Json.read? text)
  drain (i + 1)
  return .payload data

def someBindings : Routine Answer := do
  let lines ← buffer
  refuse (lines.all Text.allBlank)
  bindings

def any : Routine Answer :=
  firstOf [payload, breakpoint, stopped, moved, history, someBindings]

/-- Everything in the buffer as it stands. -/
def rawOutput : Routine Answer := do
  let lines ← buffer
  drain lines.length
  return .output (Text.joinLines lines)

/-- The answer to a command. -/
def answerTo : Command → Routine Answer
  | .setBreakpoint _ _ => breakpoint
  | .deleteBreakpoint _ => plain
  | .trace _ => stopped
  | .typeOf _ => typed
  | .evaluate _ _ => shown
  | .history => history
  | .bindings => bindings
  | .force _ => bindings
  | .move direction cursor => do
      match ← moved with
      | .moved step => return .moved (Command.markStep direction cursor step)
      | other => return other
  | .load _ => do
      let lines ← buffer
      refuse (lines.any Command.reportsFailure)
      plain
  | .raw _ => orElse any rawOutput

/-!
## What they do to a buffer
-/

/-- A routine returns nothing and leaves the buffer alone, or it returns what the
reader finds and takes at least the first line that is not blank, or everything. -/
inductive Acts (lines : List Text) :
    Option (Answer × List Text) → Option (Option Answer × List Text) → Prop where
  | nothing : Acts lines none (some (none, lines))
  | taken (answer : Answer) (n : Nat)
      (hle : n ≤ lines.length)
      (hfirst : skipped lines 0 < n ∨ n = lines.length) :
      Acts lines (some (answer, lines.drop n)) (some (some answer, lines.drop n))

variable {lines : List Text}

theorem skipBlank_of_none
    (h : lines[skipped lines 0]? = none) :
    Entry.skipBlank lines = [] := by
  have hdrop := drop_skipped lines 0
  rw [drop_of_getElem?_eq_none h, List.drop_zero] at hdrop
  exact hdrop.symm

theorem skipBlank_of_some
    {line : Text} (h : lines[skipped lines 0]? = some line) :
    Entry.skipBlank lines = line :: lines.drop (skipped lines 0 + 1) := by
  have hdrop := drop_skipped lines 0
  rw [drop_of_getElem? h, List.drop_zero] at hdrop
  exact hdrop.symm

/-- The end of a routine that takes a number of lines and returns an answer. -/
theorem acts_drain
    {n : Nat} (answer : Answer) (hle : n ≤ lines.length)
    (hfirst : skipped lines 0 < n ∨ n = lines.length) :
    Acts lines (some (answer, lines.drop n))
      ((do drain n; return answer : Routine Answer).on lines) := by
  rw [on_drain_bind hle, on_pure]
  exact .taken answer n hle hfirst

theorem acts_breakpoint
    (lines : List Text) :
    Acts lines (breakpoint? lines) (breakpoint.on lines) := by
  rw [breakpoint?, breakpoint, on_buffer_bind]
  cases hline : lines[skipped lines 0]? with
  | none =>
      rw [skipBlank_of_none hline]
      simp only [hline, on_require_none_bind]
      exact .nothing
  | some line =>
      have hlt := (List.getElem?_eq_some_iff.mp hline).1
      rw [skipBlank_of_some hline]
      simp only [hline, on_require_some_bind]
      cases hreport : breakpointReport? line with
      | none => exact .nothing
      | some report => exact acts_drain _ hlt (.inl (Nat.lt_succ_self _))

theorem acts_stopped
    (lines : List Text) :
    Acts lines (stopped? lines) (stopped.on lines) := by
  rw [stopped?, stopped, on_buffer_bind, lastStop?_eq]
  cases hstop : lastStopAt? lines with
  | none => exact .nothing
  | some stop =>
      rcases stop with ⟨i, span⟩
      have hbounds := bounds_of_lastStopAt? hstop
      have hle : i + 1 ≤ lines.length := hbounds.2
      have hlast := bounds_bindingsAt hle
      simp only [Option.map_some, on_require_some_bind]
      rw [readAll_drop]
      exact acts_drain _ hlast.2.1 (.inl (by omega))

theorem acts_typed
    (lines : List Text) :
    Acts lines (typed? lines) (typed.on lines) := by
  rw [typed?, typed, on_buffer_bind]
  cases herror : Diagnostic.anyError lines with
  | true => exact .nothing
  | false =>
      have htake := take?_drop lines (skipped lines 0)
      rw [drop_skipped, List.drop_zero] at htake
      simp only [on_refuse_false_bind, htake]
      cases hentry : entryAt? lines (skipped lines 0) with
      | none => exact .nothing
      | some found =>
          rcases found with ⟨entry, next⟩
          have hbounds := bounds_of_entryAt? hentry
          simp only [on_require_some_bind]
          show Acts lines
            (do
              let parts ← Annotation.split? entry
              some (.typed (Text.trim parts.1) (Text.trim parts.2), lines.drop next)) _
          cases hsplit : Annotation.split? entry with
          | none => exact .nothing
          | some parts => exact acts_drain _ hbounds.2 (.inl hbounds.1)

/-- The end of a routine that takes all lines and returns an answer. -/
theorem acts_drain_all
    (lines : List Text) (answer : Answer) :
    Acts lines (some (answer, []))
      ((do drain lines.length; return answer : Routine Answer).on lines) := by
  have hacts := acts_drain answer (Nat.le_refl lines.length) (.inr rfl)
  rw [List.drop_length] at hacts
  exact hacts

theorem acts_shown
    (lines : List Text) :
    Acts lines (shown? lines) (shown.on lines) := by
  rw [shown?, shown, on_buffer_bind]
  cases lines with
  | nil => exact .nothing
  | cons line rest =>
      cases herror : Diagnostic.anyError (line :: rest) with
      | true =>
          simp only [or_true, if_true]
          exact .nothing
      | false =>
          rw [if_neg (by simp)]
          exact acts_drain_all _ _

theorem acts_plain
    (lines : List Text) :
    Acts lines (plain? lines) (plain.on lines) := by
  rw [plain?, plain, on_buffer_bind]
  cases herror : Diagnostic.anyError lines with
  | true => exact .nothing
  | false => exact acts_drain_all _ _

theorem acts_history
    (lines : List Text) :
    Acts lines (history? lines) (history.on lines) := by
  rw [history?, history, on_buffer_bind]
  cases hline : lines[skipped lines 0]? with
  | none =>
      rw [skipBlank_of_none hline]
      simp only [hline, on_require_none_bind]
      exact .nothing
  | some line =>
      have hlt := (List.getElem?_eq_some_iff.mp hline).1
      have hframes := historyFrames_drop lines (skipped lines 0)
      have hbounds := bounds_framesAt (Nat.le_of_lt hlt)
      rw [drop_of_getElem? hline] at hframes
      rw [skipBlank_of_some hline]
      simp only [hline, on_require_some_bind, hframes]
      split
      · exact acts_drain _ hlt (.inl (Nat.lt_succ_self _))
      · cases hfound : (framesAt lines (skipped lines 0)).1 with
        | nil => exact .nothing
        | cons frame frames =>
            rw [hfound] at hbounds
            have hfirst := hbounds.2.2.resolve_left (List.cons_ne_nil frame frames)
            exact acts_drain _ hbounds.2.1 (.inl hfirst)

theorem acts_bindings
    (lines : List Text) :
    Acts lines (bindings? lines) (bindings.on lines) := by
  rw [bindings?, bindings, on_buffer_bind]
  cases herror : Diagnostic.anyError lines with
  | true => exact .nothing
  | false =>
      have hread := readAll_drop lines (skipped lines 0)
      have hbounds := bounds_bindingsAt (skipped_le (Nat.zero_le lines.length))
      have hskip := le_skipped lines (skipped lines 0)
      rw [drop_skipped, List.drop_zero] at hread
      simp only [hread, on_refuse_false_bind]
      generalize bindingsAt lines (skipped lines 0) = found at hbounds
      rcases found with ⟨bindings, last⟩
      cases bindings with
      | cons binding bindings =>
          have hfirst : skipped lines 0 < last := by
            rcases hbounds.2.2 with ⟨hnil, -⟩ | hlt
            · cases hnil
            · exact Nat.lt_of_le_of_lt hskip hlt
          have hkept : ¬ (lines.drop last ≠ [] ∧ binding :: bindings = []) :=
            fun h => List.cons_ne_nil binding bindings h.2
          simp only [if_neg hkept]
          simp only [List.isEmpty_cons, Bool.and_false, on_refuse_false_bind]
          exact acts_drain _ hbounds.2.1 (.inl hfirst)
      | nil =>
          simp only [List.isEmpty_nil, Bool.and_true, ne_eq, List.drop_eq_nil_iff, and_true]
          by_cases hlt : last < lines.length
          · rw [if_pos (Nat.not_le_of_lt hlt), decide_eq_true hlt]
            exact .nothing
          · have hend : lines.length ≤ last := Nat.le_of_not_lt hlt
            rw [if_neg (not_not_intro hend), decide_eq_false hlt]
            exact acts_drain _ hbounds.2.1 (.inr (Nat.le_antisymm hbounds.2.1 hend))

theorem acts_moved
    (lines : List Text) :
    Acts lines (moved? lines) (moved.on lines) := by
  rw [moved?, moved, on_buffer_bind]
  cases hline : lines[skipped lines 0]? with
  | none =>
      rw [skipBlank_of_none hline]
      simp only [hline, on_require_none_bind]
      exact .nothing
  | some line =>
      have hlt := (List.getElem?_eq_some_iff.mp hline).1
      have hle : skipped lines 0 + 1 ≤ lines.length := hlt
      have hbounds := bounds_bindingsAt hle
      rw [skipBlank_of_some hline]
      simp only [hline, on_require_some_bind]
      rw [readAll_drop]
      cases hreport : ((loggedReport? line).map fun span => (span, false)).or
          ((stopReport? line).map fun span => (span, true)) with
      | none => exact .nothing
      | some report => exact acts_drain _ hbounds.2.1 (.inl hbounds.1)

theorem acts_payload
    (lines : List Text) :
    Acts lines (payload? lines) (payload.on lines) := by
  rw [payload?, payload, on_buffer_bind]
  cases hline : lines[skipped lines 0]? with
  | none =>
      rw [skipBlank_of_none hline]
      simp only [hline, on_require_none_bind]
      exact .nothing
  | some line =>
      have hlt := (List.getElem?_eq_some_iff.mp hline).1
      rw [skipBlank_of_some hline]
      simp only [hline, on_require_some_bind]
      cases hbrace : Text.beginsWith ['\x7b'] (Text.trim line) with
      | false => exact .nothing
      | true =>
          cases hdata : Json.read? (Text.trim line) with
          | none => exact .nothing
          | some data => exact acts_drain _ hlt (.inl (Nat.lt_succ_self _))

theorem acts_someBindings
    (lines : List Text) :
    Acts lines (someBindings? lines) (someBindings.on lines) := by
  rw [someBindings?, someBindings, on_buffer_bind]
  cases hblank : lines.all Text.allBlank with
  | true => exact .nothing
  | false => exact acts_bindings lines

theorem acts_orElse
    {first second : Option (Answer × List Text)} {routine other : Routine Answer}
    (hfirst : Acts lines first (routine.on lines)) (hsecond : Acts lines second (other.on lines)) :
    Acts lines (first.or second) ((orElse routine other).on lines) := by
  rw [orElse]
  simp only
  generalize routine.on lines = result at hfirst
  cases hfirst with
  | nothing => exact hsecond
  | taken answer n hle hn => exact .taken answer n hle hn

theorem acts_firstOf
    {readers : List Reader} {routines : List (Routine Answer)}
    (h : List.Forall₂ (fun read routine => Acts lines (read lines) (routine.on lines))
      readers routines) :
    Acts lines (readers.findSome? fun read => read lines) ((firstOf routines).on lines) := by
  induction h with
  | nil => exact .nothing
  | @cons read routine readers routines hacts hrest ih =>
      have hor := acts_orElse hacts ih
      rw [List.findSome?_cons, firstOf]
      cases hread : read lines with
      | none =>
          rw [hread] at hor
          exact hor
      | some answer =>
          rw [hread] at hor
          exact hor

theorem acts_any
    (lines : List Text) :
    Acts lines (any? lines) (any.on lines) := by
  apply acts_firstOf
  exact .cons (acts_payload lines) (.cons (acts_breakpoint lines) (.cons (acts_stopped lines)
    (.cons (acts_moved lines) (.cons (acts_history lines)
      (.cons (acts_someBindings lines) .nil)))))

theorem acts_answerTo
    (command : Command) (lines : List Text) :
    Acts lines (command.read? lines) ((answerTo command).on lines) := by
  cases command with
  | setBreakpoint module line => exact acts_breakpoint lines
  | deleteBreakpoint number => exact acts_plain lines
  | trace expression => exact acts_stopped lines
  | typeOf expression => exact acts_typed lines
  | evaluate printer expression => exact acts_shown lines
  | history => exact acts_history lines
  | bindings => exact acts_bindings lines
  | force expression => exact acts_bindings lines
  | move direction cursor =>
      have hacts := acts_moved lines
      rw [Command.read?, answerTo, on_bind]
      generalize moved? lines = read at hacts
      generalize moved.on lines = result at hacts
      cases hacts with
      | nothing => exact .nothing
      | taken answer n hle hfirst =>
          cases answer with
          | moved step => exact .taken _ n hle hfirst
          | _ => exact .taken _ n hle hfirst
  | load path =>
      rw [Command.read?, answerTo, on_buffer_bind]
      cases hfailed : lines.any Command.reportsFailure with
      | true => exact .nothing
      | false => exact acts_plain lines
  | raw text => exact acts_orElse (acts_any lines) (acts_drain_all lines _)

end Buffer
end GhciBridge
