import GhciBridge.Proofs.Session.Opening
import GhciBridge.Proofs.Wire.Reader

/-!
# The prompt of a configuration

The sentinel of a configuration is written into the line that sets the prompt, and
looked for in the lines that are printed.  A valid one holds no line break, so both
go well unless it holds a carriage return: no line with a carriage return is
written, and at the end of a printed line carriage returns do not count.
-/

namespace GhciBridge
namespace Event

/-- Carriage returns at the end of the sentinel are taken for a line end. -/
theorem prompt_notMem_classify_of_getLast?
    {sentinel : Text} (hlast : sentinel.getLast? = some '\r') :
    prompt ∉ classify sentinel (sentinel ++ ['\n']) := by
  rcases List.getLast?_eq_some_iff.mp hlast with ⟨front, rfl⟩
  have hdrop : dropLineEnd (front ++ ['\r'] ++ ['\n']) = dropLineEnd front := by
    simp [dropLineEnd]
  rw [prompt_mem_classify_iff, hdrop]
  intro hheld
  have hlength := (hheld.trans (dropLineEnd_isPrefix front).isInfix).length_le
  rw [List.length_append, List.length_singleton] at hlength
  omega

end Event

namespace Config

variable {config : Config}

theorem flaw?_of_validate
    (hvalid : config.validate = .ok ()) :
    config.flaw? = none := by
  cases hflaw : config.flaw? with
  | none => rfl
  | some flaw =>
      rw [validate, hflaw] at hvalid
      cases hvalid

theorem lineBreak_notMem_sentinel
    (hflaw : config.flaw? = none) :
    '\n' ∉ config.sentinel := by
  intro hmem
  have hreserved : config.sentinel.any isReserved = true :=
    List.any_eq_true.mpr ⟨'\n', hmem, by decide⟩
  rw [flaw?, hreserved] at hflaw
  split at hflaw
  · cases hflaw
  · cases hflaw

/-- What cannot stand on a line of input comes into the line from the sentinel. -/
theorem mem_promptCommand_iff
    {c : Char} (hc : c = '\n' ∨ c = '\r') :
    c ∈ config.promptCommand ↔ c ∈ config.sentinel := by
  have hfront : c ∉ ":set prompt \"".toList := by
    rcases hc with rfl | rfl
    · decide
    · decide
  have hback : c ∉ "\\n\"".toList := by
    rcases hc with rfl | rfl
    · decide
    · decide
  unfold promptCommand
  -- the literals are kept from being compared character by character
  generalize ":set prompt \"".toList = front at hfront
  generalize "\\n\"".toList = back at hback
  rw [List.mem_append, List.mem_append, or_iff_left hback, or_iff_right hfront]

theorem fitsOneLine_promptCommand
    (hflaw : config.flaw? = none) :
    Command.fitsOneLine config.promptCommand = true ↔ '\r' ∉ config.sentinel := by
  rw [Command.fitsOneLine_iff, mem_promptCommand_iff (.inl rfl), mem_promptCommand_iff (.inr rfl)]
  exact and_iff_right (lineBreak_notMem_sentinel hflaw)

section Written

variable {π : Type} [Peer π]

theorem sendLine_promptCommand_of_fits
    (hline : Command.fitsOneLine config.promptCommand = true) (x : Exchange π) :
    x.sendLine config.promptCommand = x.writeLine config.promptCommand := by
  rw [Exchange.sendLine, trim_promptCommand]
  exact if_pos hline

theorem sendLine_promptCommand_of_not_fits
    (hline : Command.fitsOneLine config.promptCommand = false) (x : Exchange π) :
    x.sendLine config.promptCommand = (x, some (.multiline config.promptCommand)) := by
  rw [Exchange.sendLine, trim_promptCommand, hline]
  rfl

end Written

/-- The line that sets the prompt is written as it is, and the prompt that is printed
then is recognised. -/
structure InstallsPrompt (config : Config) : Prop where
  singleLine : '\n' ∉ config.promptCommand ∧ '\r' ∉ config.promptCommand
  written : ∀ {π : Type} [Peer π] (x : Exchange (Tap π)),
    (x.sendLine config.promptCommand).1.peer.inputs =
        x.peer.inputs ++ [config.promptCommand ++ ['\n']] ∧
      ∀ line, (x.sendLine config.promptCommand).2 ≠ some (.multiline line)
  recognised :
    Event.classify config.sentinel (config.sentinel ++ ['\n']) = [.prompt]

theorem recognised_iff
    (hflaw : config.flaw? = none) :
    Event.classify config.sentinel (config.sentinel ++ ['\n']) = [.prompt] ↔
      config.sentinel.getLast? ≠ some '\r' := by
  constructor
  · intro hevents hlast
    apply Event.prompt_notMem_classify_of_getLast? hlast
    rw [hevents]
    exact List.mem_singleton_self Event.prompt
  · intro hreturn
    apply Event.classify_sentinel
    rintro c hc
    constructor
    · rintro rfl
      exact hreturn hc
    · rintro rfl
      exact lineBreak_notMem_sentinel hflaw (List.mem_of_getLast? hc)

theorem InstallsPrompt.of_fits
    (hflaw : config.flaw? = none) (hline : Command.fitsOneLine config.promptCommand = true) :
    config.InstallsPrompt := by
  have hreturn := (fitsOneLine_promptCommand hflaw).mp hline
  refine ⟨(Command.fitsOneLine_iff _).mp hline, fun x => ?_, ?_⟩
  · rw [sendLine_promptCommand_of_fits hline, Exchange.peer_writeLine]
    refine ⟨rfl, fun line hfault => ?_⟩
    cases Exchange.fault_writeLine hfault
  · rw [recognised_iff hflaw]
    exact fun hlast => hreturn (List.mem_of_getLast? hlast)

/-- A valid configuration can install its prompt and recognise it exactly if there is
no carriage return in the sentinel.  Otherwise the line that sets the prompt is
refused, and a carriage return at the end keeps the prompt from being recognised. -/
theorem installs_prompt_iff
    (hvalid : config.validate = .ok ()) :
    (config.InstallsPrompt ↔ '\r' ∉ config.sentinel) ∧
      ('\r' ∈ config.sentinel → ∀ {π : Type} [Peer π] (x : Exchange π),
        x.sendLine config.promptCommand = (x, some (.multiline config.promptCommand))) ∧
      (Event.classify config.sentinel (config.sentinel ++ ['\n']) = [.prompt] ↔
        config.sentinel.getLast? ≠ some '\r') := by
  have hflaw := flaw?_of_validate hvalid
  refine ⟨⟨?_, ?_⟩, ?_, recognised_iff hflaw⟩
  · intro hinstalls
    rw [← mem_promptCommand_iff (.inr rfl)]
    exact hinstalls.singleLine.2
  · intro hreturn
    exact .of_fits hflaw ((fitsOneLine_promptCommand hflaw).mpr hreturn)
  · intro hreturn π _ x
    apply sendLine_promptCommand_of_not_fits
    rw [← Bool.not_eq_true, fitsOneLine_promptCommand hflaw]
    exact not_not_intro hreturn

/-- A sentinel that looks like the decorations of a prompt is as good as any. -/
theorem decorated_sentinel_installed :
    let config := { Config.default with sentinel := "... [A.hs:1:1] *Main> ".toList }
    config.validate = .ok () ∧ config.InstallsPrompt := by
  intro config
  have hvalid : config.validate = .ok () := by decide
  exact ⟨hvalid, (installs_prompt_iff hvalid).1.mpr (by decide)⟩

/-- A carriage return in the sentinel is not taken for a flaw, but keeps sessions from
being started. -/
theorem carriage_return_in_sentinel_refused :
    let config := { Config.default with sentinel := "a\rb".toList }
    let script : Script := ⟨"ghci".toList, [], .ofText [], [], config.sentinel⟩
    let session : Session Interpreter := .new config none (.ofScript script)
    config.validate = .ok () ∧ ¬ config.InstallsPrompt ∧
      session.start.2 = .error (.multiline config.promptCommand) ∧
      Event.classify "a\r".toList "a\r\n".toList = [.line ['a']] := by
  intro config script session
  refine ⟨by decide, ?_, rfl, by decide⟩
  intro hinstalls
  exact hinstalls.singleLine.2 (by decide)

end Config
end GhciBridge
