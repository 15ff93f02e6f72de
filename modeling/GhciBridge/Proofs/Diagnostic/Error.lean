import GhciBridge.Proofs.Answer.Routines
import GhciBridge.Proofs.Text.Search
import GhciBridge.Proofs.Text.Words

/-!
# Errors among warnings

A warning goes on over blank and indented lines.  An error begins in the first
column and is no warning of its own, so it ends the warning in front of it: what is
left when the warnings are taken out holds every error.
-/

namespace GhciBridge
namespace Diagnostic

theorem severity?_of_startsBlank
    {line : Text} (h : Text.startsBlank line = true) :
    severity? line = none := by
  cases line with
  | nil => cases h
  | cons c rest =>
      have hplace : (Text.breakBlank (c :: rest)).1 = [] := by
        have hc : Text.isBlank c = true := h
        simp only [Text.breakBlank, List.takeWhile_cons, hc, Bool.not_true, Bool.false_eq_true,
          if_false]
      have hnone : isPlace [] = false := by decide
      rw [severity?]
      simp only [hplace, hnone, Bool.false_eq_true, if_false]

/-- The ways in which a line reports an error. -/
theorem isError_iff
    {line : Text} :
    isError line = true ↔
      (∃ rest, line = "*** Exception:".toList ++ rest) ∨
        (∃ rest, line = "<no location info>: error:".toList ++ rest) ∨
        severity? line = some .error := by
  rw [isError, Bool.or_eq_true, Bool.or_eq_true, Text.beginsWith_iff, Text.beginsWith_iff,
    decide_eq_true_eq, or_assoc]

theorem startsBlank_of_isError
    {line : Text} (h : isError line = true) :
    Text.startsBlank line = false := by
  rcases isError_iff.mp h with ⟨rest, rfl⟩ | ⟨rest, rfl⟩ | hseverity
  · rfl
  · rfl
  · cases hblank : Text.startsBlank line with
    | false => rfl
    | true =>
        rw [severity?_of_startsBlank hblank] at hseverity
        cases hseverity

theorem isError_of_startsBlank
    {line : Text} (h : Text.startsBlank line = true) :
    isError line = false := by
  cases herror : isError line with
  | false => rfl
  | true =>
      rw [startsBlank_of_isError herror] at h
      cases h

theorem isError_of_allBlank
    {line : Text} (h : Text.allBlank line = true) :
    isError line = false := by
  cases line with
  | nil => rfl
  | cons c rest => exact isError_of_startsBlank (Text.startsBlank_of_allBlank (by simp) h)

/-- What stands between the place of a diagnostic and its message. -/
def Severity.heading : Severity → Text
  | .error => " error:".toList
  | .warning => " warning:".toList

theorem severity?_eq_some_iff
    {line : Text} {severity : Severity} :
    severity? line = some severity ↔
      ∃ place rest, (∀ c ∈ place, Text.isBlank c = false) ∧ isPlace place = true ∧
        line = place ++ (severity.heading ++ rest) := by
  constructor
  · intro h
    have hline : (Text.breakBlank line).1 ++ (Text.breakBlank line).2 = line :=
      List.takeWhile_append_dropWhile
    have hplace : ∀ c ∈ (Text.breakBlank line).1, Text.isBlank c = false := by
      intro c hc
      exact (Bool.not_eq_true' _).mp (List.all_eq_true.mp List.all_takeWhile c hc)
    rw [severity?] at h
    generalize Text.breakBlank line = cut at hline hplace h
    rcases cut with ⟨place, behind⟩
    dsimp only at hline hplace h
    rw [Option.ite_none_right_eq_some] at h
    rcases h with ⟨hisPlace, h⟩
    split at h
    · next herror =>
        rcases Text.beginsWith_iff.mp herror with ⟨rest, hbehind⟩
        cases h
        exact ⟨place, rest, hplace, hisPlace, by rw [← hline, hbehind]; rfl⟩
    · rw [Option.ite_none_right_eq_some] at h
      rcases h with ⟨hwarning, h⟩
      rcases Text.beginsWith_iff.mp hwarning with ⟨rest, hbehind⟩
      cases h
      exact ⟨place, rest, hplace, hisPlace, by rw [← hline, hbehind]; rfl⟩
  · intro h
    rcases h with ⟨place, rest, hplace, hisPlace, hline⟩
    have hfront : ∀ c ∈ place, (!Text.isBlank c) = true := by
      intro c hc
      rw [hplace c hc]
      rfl
    have hstop : ∀ c, (severity.heading ++ rest).head? = some c → (!Text.isBlank c) = false := by
      intro c hc
      cases severity with
      | error =>
          cases hc
          rfl
      | warning =>
          cases hc
          rfl
    have hspan := Text.takeWhile_append_of_stop hfront hstop
    rw [severity?, hline, Text.breakBlank, hspan.1, hspan.2]
    simp only [hisPlace, if_true]
    cases severity with
    | error => rfl
    | warning => rfl

/-- What reports an error reports it with more text behind it too. -/
theorem isError_of_isPrefix
    {front line : Text} (hfront : front <+: line) (h : isError front = true) :
    isError line = true := by
  rcases hfront with ⟨rest, hline⟩
  rw [← hline, isError_iff]
  rcases isError_iff.mp h with ⟨message, hmessage⟩ | ⟨message, hmessage⟩ | hseverity
  · exact .inl ⟨message ++ rest, by rw [hmessage, List.append_assoc]⟩
  · exact .inr (.inl ⟨message ++ rest, by rw [hmessage, List.append_assoc]⟩)
  · rcases severity?_eq_some_iff.mp hseverity with ⟨place, message, hplace, hisPlace, hmessage⟩
    refine .inr (.inr (severity?_eq_some_iff.mpr ⟨place, message ++ rest, hplace, hisPlace, ?_⟩))
    rw [hmessage, List.append_assoc, List.append_assoc]

/-- A line that reports an error has a letter behind its first space. -/
theorem exists_letter_of_isError
    {line : Text} (h : isError line = true) :
    ∃ word c rest, (∀ d ∈ word, Text.isBlank d = false) ∧ line = word ++ ' ' :: c :: rest ∧
      c.isAlpha = true := by
  rcases isError_iff.mp h with ⟨rest, rfl⟩ | ⟨rest, rfl⟩ | hseverity
  · have hword : Text.IsWord "***".toList := by decide
    exact ⟨_, 'E', "xception:".toList ++ rest, hword.solid, rfl, by decide⟩
  · have hword : Text.IsWord "<no".toList := by decide
    exact ⟨_, 'l', "ocation info>: error:".toList ++ rest, hword.solid, rfl, by decide⟩
  · rcases severity?_eq_some_iff.mp hseverity with ⟨place, rest, hplace, -, rfl⟩
    exact ⟨place, 'e', "rror:".toList ++ rest, hplace, rfl, by decide⟩

theorem isWarning_of_isError
    {line : Text} (h : isError line = true) :
    isWarning line = false := by
  rcases isError_iff.mp h with ⟨rest, rfl⟩ | ⟨rest, rfl⟩ | hseverity
  · rfl
  · rfl
  · rw [isWarning, hseverity]
    rfl

/-- An error does not belong to a warning, whatever stands in front of it. -/
theorem inWarning_of_isError
    {line : Text} (h : isError line = true) (before : Bool) :
    inWarning before line = false := by
  have hstart := startsBlank_of_isError h
  have hne : line ≠ [] := by
    rintro rfl
    cases h
  have hall := Text.not_allBlank hne hstart
  rw [inWarning, hall, hstart, isWarning_of_isError h, Bool.or_self, Bool.and_false,
    Bool.or_self]

theorem filter_isError_separateFrom
    (before : Bool) (lines : List Text) :
    (separateFrom before lines).2.filter isError = lines.filter isError := by
  induction lines generalizing before with
  | nil => rfl
  | cons line lines ih =>
      have hrest := ih (inWarning before line)
      rw [separateFrom]
      cases hnow : inWarning before line with
      | true =>
          have herror : isError line = false := by
            cases herror : isError line with
            | false => rfl
            | true =>
                rw [inWarning_of_isError herror] at hnow
                cases hnow
          rw [hnow] at hrest
          rw [List.filter_cons_of_neg (by simp [herror])]
          exact hrest
      | false =>
          rw [hnow] at hrest
          simp only [Bool.false_eq_true, if_false, List.filter_cons, hrest]

/-- Without the warnings the errors are the same. -/
theorem filter_isError_withoutWarnings
    (lines : List Text) :
    (withoutWarnings lines).filter isError = lines.filter isError :=
  filter_isError_separateFrom false lines

theorem mem_withoutWarnings_of_isError
    {line : Text} {lines : List Text} (hmem : line ∈ lines) (h : isError line = true) :
    line ∈ withoutWarnings lines := by
  have hfilter : line ∈ (withoutWarnings lines).filter isError := by
    rw [filter_isError_withoutWarnings]
    exact List.mem_filter.mpr ⟨hmem, h⟩
  exact (List.mem_filter.mp hfilter).1

theorem anyError_iff
    {lines : List Text} :
    anyError lines = true ↔ ∃ line ∈ lines, isError line = true :=
  List.any_eq_true

theorem anyError_eq_false
    {lines : List Text} (h : ∀ line ∈ lines, isError line = false) :
    anyError lines = false :=
  List.any_eq_false.mpr fun line hline => ne_true_of_eq_false (h line hline)

theorem anyError_withoutWarnings
    {lines : List Text} (h : anyError lines = true) :
    anyError (withoutWarnings lines) = true := by
  rcases anyError_iff.mp h with ⟨line, hmem, herror⟩
  exact anyError_iff.mpr ⟨line, mem_withoutWarnings_of_isError hmem herror, herror⟩

end Diagnostic

/-!
## Commands that do not read errors as values
-/

namespace Command

/-- The commands whose answer is none if a line of it reports an error. -/
def refusesErrors : Command → Bool
  | .deleteBreakpoint _ => true
  | .typeOf _ => true
  | .evaluate _ _ => true
  | .bindings => true
  | .force _ => true
  | .load _ => true
  | _ => false

variable {command : Command} {lines : List Text}

theorem read?_of_anyError
    (hcommand : command.refusesErrors = true) (herror : Diagnostic.anyError lines = true) :
    command.read? lines = none := by
  have hplain : Answer.plain? lines = none := if_pos herror
  have hbindings : Answer.bindings? lines = none := if_pos herror
  cases command with
  | deleteBreakpoint number => exact hplain
  | typeOf expression => exact if_pos herror
  | evaluate printer expression => exact if_pos (.inr herror)
  | bindings => exact hbindings
  | force expression => exact hbindings
  | load path =>
      rw [read?, hplain]
      exact ite_self none
  | _ => cases hcommand

theorem complete_of_anyError
    (hcommand : command.refusesErrors = true) (herror : Diagnostic.anyError lines = true) :
    command.complete lines = none := by
  rw [complete, read?_of_anyError hcommand (Diagnostic.anyError_withoutWarnings herror)]
  rfl

end Command

/-- Nothing is taken off a buffer in which some line reports an error. -/
theorem Buffer.answerTo_of_anyError
    {command : Command} {lines : List Text} (hcommand : command.refusesErrors = true)
    (herror : Diagnostic.anyError lines = true) :
    (Buffer.answerTo command).on lines = some (none, lines) := by
  have hacts := Buffer.acts_answerTo command lines
  rw [Command.read?_of_anyError hcommand herror] at hacts
  generalize (Buffer.answerTo command).on lines = result at hacts
  cases hacts
  rfl

end GhciBridge
