import GhciBridge.Proofs.Session.Dialogue
import GhciBridge.Proofs.Text.Trim
import GhciBridge.Session.Basic

/-!
# The opening of a session

A start waits for the first prompt and takes everything in front of it for the
greeting.  The banner and the reply to the line that sets the prompt are printed
one after the other, so a line may have its beginning in the banner and its end
in the reply.  If no line of the two but the last one holds the sentinel, nothing
is left over when the first command is written.
-/

namespace GhciBridge

/-!
## The printed opening
-/

namespace Script

/-- What is printed before the first command: the banner and the reply to the line
that sets the prompt. -/
def opening (script : Script) : Text :=
  script.banner ++ script.startup.print script.sentinel

/-- No complete line of the opening holds the sentinel but the last one, and this
one only if the opening ends with it. -/
structure OpensQuietly (script : Script) : Prop where
  earlier : ∀ line ∈ (Lines.cut '\n' script.opening).1.dropLast, ¬ script.sentinel <:+: line
  complete :
    (Lines.cut '\n' script.opening).2 ≠ [] →
      ∀ line ∈ (Lines.cut '\n' script.opening).1, ¬ script.sentinel <:+: line

/-- With a reply that is a text with the prompt behind it, the lines of the banner
and of that text count. -/
theorem OpensQuietly.of_text
    {script : Script} {text : Text} (hmark : IsMark script.sentinel)
    (hstartup : script.startup = .ofText text)
    (hquiet : ∀ line ∈ (Lines.cut '\n' (script.banner ++ text)).1, ¬ script.sentinel <:+: line) :
    script.OpensQuietly := by
  have hopening : script.opening = script.banner ++ text ++ script.sentinel ++ ['\n'] := by
    simp [opening, hstartup, Reply.print, Reply.ofText]
  constructor
  · rw [hopening, cut_prompted hmark, List.dropLast_concat]
    exact hquiet
  · intro hne
    rw [hopening, cut_prompted hmark] at hne
    exact absurd rfl hne

end Script

/-!
## The first prompt
-/

namespace Event

theorem classify_of_prompt_mem
    {sentinel line : Text} (h : prompt ∈ classify sentinel line) :
    ∃ lines : List Text, classify sentinel line = lines.map .line ++ [.prompt] := by
  have hheld := prompt_mem_classify_iff.mp h
  cases hcut : Text.breakOn? sentinel (dropLineEnd line) with
  | none => exact absurd hheld (Text.breakOn?_eq_none_iff.mp hcut)
  | some cut => exact ⟨_, classify_of_breakOn? hcut⟩

end Event

namespace Exchange

/-- A prompt that only the last line can give is the last event. -/
theorem collect_of_quiet_dropLast
    {sentinel : Text} {lines : List Text} (hquiet : ∀ line ∈ lines.dropLast, ¬ sentinel <:+: line)
    (hprompt : (collect (lines.flatMap (Event.classify sentinel))).2.1 = .prompt) :
    (collect (lines.flatMap (Event.classify sentinel))).2.2 = [] ∧
      ∃ line ∈ lines, sentinel <:+: line := by
  rcases List.eq_nil_or_concat lines with rfl | ⟨front, last, rfl⟩
  · cases hprompt
  · rw [List.concat_eq_append] at hquiet hprompt ⊢
    rw [List.dropLast_concat] at hquiet
    rw [List.flatMap_append, List.flatMap_singleton, Event.flatMap_classify_quiet hquiet,
      collect_lines] at hprompt ⊢
    have hmem : .prompt ∈ Event.classify sentinel last := mem_of_collect hprompt
    have hheld := Event.infix_of_prompt_mem hmem
    rcases Event.classify_of_prompt_mem hmem with ⟨before, hevents⟩
    rw [hevents, collect_lines]
    exact ⟨rfl, last, List.mem_append_right front List.mem_cons_self, hheld⟩

theorem eq_of_receive_ok
    {π : Type} {x y : Exchange π} {asked : Text} {patience : Nat} {lines : List Text}
    (h : x.receive asked patience = (y, .ok lines)) :
    (collect x.channel).2.1 = .prompt ∧ y = { x with channel := (collect x.channel).2.2 } := by
  rw [receive] at h
  rcases hcollect : collect x.channel with ⟨before, ending, rest⟩
  rw [hcollect] at h
  cases ending with
  | prompt =>
      cases h
      exact ⟨rfl, rfl⟩
  | closed => cases h
  | silence =>
      simp only at h
      split at h
      · cases h
      · cases h

end Exchange

/-!
## Starting an interpreter
-/

namespace Interpreter

theorem eq_of_launch
    {i j : Interpreter} {path : Text} {arguments : List Text} {speech : Speech}
    (h : Host.launch i path arguments = some (speech, j)) :
    speech = ⟨encodeUtf8 i.script.banner, false⟩ ∧
      j = { i with stage := some .startup, log := i.log ++ [.start arguments] } := by
  have hlaunch : i.launch path arguments = some (speech, j) := h
  rw [launch] at hlaunch
  split at hlaunch
  · cases hlaunch
  · cases hlaunch
    exact ⟨rfl, rfl⟩

end Interpreter

namespace Config

theorem enclosed_promptCommand
    (config : Config) :
    ∃ text : Text, config.promptCommand = ':' :: (text ++ ['"']) := by
  have hfront : ":set prompt \"".toList = ':' :: "set prompt \"".toList := by decide
  have hback : "\\n\"".toList = "\\n".toList ++ ['"'] := by decide
  refine ⟨"set prompt \"".toList ++ config.sentinel ++ "\\n".toList, ?_⟩
  unfold promptCommand
  rw [hfront, hback]
  -- the literals are kept from being compared character by character
  generalize "set prompt \"".toList = front
  generalize "\\n".toList = back
  simp

theorem trim_promptCommand
    (config : Config) :
    Text.trim config.promptCommand = config.promptCommand := by
  rcases enclosed_promptCommand config with ⟨text, htext⟩
  rw [htext]
  exact Text.trim_enclosed (by decide) (by decide) text

theorem promptCommand_ne_quit
    (config : Config) :
    config.promptCommand ≠ Interpreter.quit := by
  rcases enclosed_promptCommand config with ⟨text, htext⟩
  intro hquit
  have hlast := congrArg List.getLast? (htext.symm.trans hquit)
  rw [← List.cons_append, List.getLast?_concat] at hlast
  exact absurd (Option.some.inj hlast) (by decide)

theorem isMark_sentinel
    {config : Config} (hflaw : config.flaw? = none)
    (hline : Command.fitsOneLine config.promptCommand = true) :
    IsMark config.sentinel := by
  have hsubset : ∀ c ∈ config.sentinel, c ∈ config.promptCommand := by
    intro c hc
    unfold promptCommand
    apply List.mem_append_left
    apply List.mem_append_right
    exact hc
  rcases (Command.fitsOneLine_iff _).mp hline with ⟨hbreak, hreturn⟩
  refine ⟨?_, fun h => hbreak (hsubset _ h), fun h => hreturn (hsubset _ h)⟩
  intro hnil
  rw [flaw?, hnil, Text.allBlank, List.all_nil, if_pos rfl] at hflaw
  cases hflaw

end Config

namespace Session

section Greeting

variable {config : Config} {i j : Interpreter} {path : Text} {arguments : List Text}
  {speech : Speech}

theorem greet_eq
    (hlaunch : Host.launch i path arguments = some (speech, j)) :
    greet config j speech =
      { peer := j
        feed := .holding config.sentinel (Lines.cut '\n' i.script.banner).2
        channel := (Lines.cut '\n' i.script.banner).1.flatMap (Event.classify config.sentinel)
        connected := true
        closed := false
        queue := []
        patience := config.responseTimeout } := by
  have hfeed : (Exchange.start j config.sentinel config.responseTimeout).feed =
      .holding config.sentinel [] := by
    rw [Feed.holding_nil]
    rfl
  rw [greet, (Interpreter.eq_of_launch hlaunch).1, Exchange.hear_text hfeed]
  rfl

theorem hearLine_promptCommand
    (hsentinel : i.script.sentinel = config.sentinel)
    (hlaunch : Host.launch i path arguments = some (speech, j)) :
    j.hearLine config.promptCommand =
      (⟨encodeUtf8 (i.script.startup.print config.sentinel), i.script.startup.exits⟩,
        { i with
          stage := if i.script.startup.exits then none else some (.answering i.script.answers)
          log := i.log ++ [.start arguments] ++ [.line config.promptCommand] }) := by
  have hj := (Interpreter.eq_of_launch hlaunch).2
  have hstage : j.stage = some .startup := by rw [hj]
  rw [Interpreter.hearLine_of_stage hstage (Config.promptCommand_ne_quit config), hj,
    ← hsentinel]
  rfl

theorem commandLines_of_start
    (hsentinel : i.script.sentinel = config.sentinel)
    (hlaunch : Host.launch i path arguments = some (speech, j)) :
    (j.hearLine config.promptCommand).2.commandLines = [] := by
  rw [hearLine_promptCommand hsentinel hlaunch, Interpreter.commandLines,
    Interpreter.sinceStart_line, Interpreter.sinceStart_start]
  rfl

/-- The exchange after the reply to the line that sets the prompt. -/
def prompted (config : Config) (j : Interpreter) (speech : Speech) : Exchange Interpreter :=
  ((greet config j speech).tell config.promptCommand).hear (j.hearLine config.promptCommand).1

theorem peer_prompted
    (hlaunch : Host.launch i path arguments = some (speech, j)) :
    (prompted config j speech).peer = (j.hearLine config.promptCommand).2 := by
  rw [prompted, greet_eq hlaunch]
  rfl

theorem queue_prompted
    (hlaunch : Host.launch i path arguments = some (speech, j)) :
    (prompted config j speech).queue = [] := by
  rw [prompted, greet_eq hlaunch]
  rfl

theorem sendLine_greet
    (hlaunch : Host.launch i path arguments = some (speech, j))
    (hline : Command.fitsOneLine config.promptCommand = true) :
    (greet config j speech).sendLine config.promptCommand =
      (prompted config j speech, none) := by
  have hj := (Interpreter.eq_of_launch hlaunch).2
  have hstage : (greet config j speech).peer.stage = some .startup := by
    rw [greet_eq hlaunch, hj]
  have hwrite :=
    Exchange.writeLine_of_running hstage ((Command.fitsOneLine_iff _).mp hline).1
  rw [Exchange.sendLine, Config.trim_promptCommand, if_pos hline, hwrite, prompted,
    greet_eq hlaunch]
  rfl

theorem isReady_of_start
    (hsentinel : i.script.sentinel = config.sentinel) (hquiet : i.script.OpensQuietly)
    (hlaunch : Host.launch i path arguments = some (speech, j))
    (hgoesOn : i.script.startup.exits = false) {x : Exchange Interpreter} {lines : List Text}
    {asked : Text} {patience : Nat}
    (hreceive : (prompted config j speech).receive asked patience = (x, .ok lines)) :
    x.IsReady config.sentinel := by
  have hfeed : ((greet config j speech).tell config.promptCommand).feed =
      .holding config.sentinel (Lines.cut '\n' i.script.banner).2 := by
    rw [greet_eq hlaunch]
    rfl
  have hchannel : ((greet config j speech).tell config.promptCommand).channel =
      (Lines.cut '\n' i.script.banner).1.flatMap (Event.classify config.sentinel) := by
    rw [greet_eq hlaunch]
    rfl
  have hopening : i.script.opening =
      i.script.banner ++ i.script.startup.print config.sentinel := by
    rw [Script.opening, hsentinel]
  have hcut := Lines.cut_append '\n' i.script.banner (i.script.startup.print config.sentinel)
  rw [← hopening] at hcut
  have hspeech := hearLine_promptCommand hsentinel hlaunch
  rw [hgoesOn] at hspeech
  rw [prompted, hspeech, Exchange.hear_text hfeed, hchannel, ← List.flatMap_append] at hreceive
  have hlines : (Lines.cut '\n' i.script.banner).1 ++
      (Lines.cut '\n' ((Lines.cut '\n' i.script.banner).2 ++
        i.script.startup.print config.sentinel)).1 = (Lines.cut '\n' i.script.opening).1 := by
    rw [hcut]
  have hlast : (Lines.cut '\n' ((Lines.cut '\n' i.script.banner).2 ++
      i.script.startup.print config.sentinel)).2 = (Lines.cut '\n' i.script.opening).2 := by
    rw [hcut]
  rw [hlines, hlast] at hreceive
  rcases Exchange.eq_of_receive_ok hreceive with ⟨hprompt, rfl⟩
  have hearlier := hquiet.earlier
  rw [hsentinel] at hearlier
  rcases Exchange.collect_of_quiet_dropLast hearlier hprompt with ⟨hrest, line, hmem, hheld⟩
  have hcomplete : (Lines.cut '\n' i.script.opening).2 = [] := by
    by_contra hne
    rw [← hsentinel] at hheld
    exact hquiet.complete hne line hmem hheld
  refine ⟨?_, ?_, hrest, ?_, ?_⟩
  · have hpeer : ((greet config j speech).tell config.promptCommand).peer =
        (j.hearLine config.promptCommand).2 := by
      rw [greet_eq hlaunch]
      rfl
    have hlines := commandLines_of_start hsentinel hlaunch
    simp only [hpeer]
    constructor
    · rw [hlines, hspeech]
      rfl
    · rw [hspeech, Interpreter.sinceStart_line]
      simp
  · rw [hcomplete, Feed.holding_nil]
  · show ((greet config j speech).tell config.promptCommand).connected = true
    rw [greet_eq hlaunch]
    rfl
  · show ((greet config j speech).tell config.promptCommand).closed = false
    rw [greet_eq hlaunch]
    rfl

theorem installPrompt_greet
    (hsentinel : i.script.sentinel = config.sentinel) (hquiet : i.script.OpensQuietly)
    (hflaw : config.flaw? = none) (hlaunch : Host.launch i path arguments = some (speech, j))
    {x : Exchange Interpreter} {fault : Option Fault}
    (hinstall : installPrompt config (greet config j speech) = (x, fault)) :
    x.peer.script = i.script ∧ x.peer.commandLines = [] ∧ x.queue = [] ∧
      (fault = none → IsMark config.sentinel ∧ x.IsLevel config.sentinel) := by
  rw [installPrompt] at hinstall
  by_cases hline : Command.fitsOneLine config.promptCommand = true
  · rw [sendLine_greet hlaunch hline] at hinstall
    simp only [Exchange.waitForPrompt] at hinstall
    have hpeer := Exchange.peer_receive (prompted config j speech) Exchange.startup
      config.startupTimeout
    have hqueue := Exchange.queue_receive (prompted config j speech) Exchange.startup
      config.startupTimeout
    have hscript : (j.hearLine config.promptCommand).2.script = i.script := by
      rw [Interpreter.script_hearLine, (Interpreter.eq_of_launch hlaunch).2]
    have hlines := commandLines_of_start hsentinel hlaunch
    rw [peer_prompted hlaunch] at hpeer
    rw [queue_prompted hlaunch] at hqueue
    rcases hreceive : (prompted config j speech).receive Exchange.startup
      config.startupTimeout with ⟨y, result⟩
    rw [hreceive] at hinstall hpeer hqueue
    cases result with
    | error error =>
        cases hinstall
        rw [hpeer]
        refine ⟨hscript, hlines, hqueue, ?_⟩
        intro hnone
        cases hnone
    | ok lines =>
        cases hinstall
        refine ⟨by rw [hpeer, hscript], by rw [hpeer, hlines], hqueue, ?_⟩
        intro _
        refine ⟨Config.isMark_sentinel hflaw hline, ?_⟩
        cases hexits : i.script.startup.exits with
        | true =>
            left
            rw [hpeer, hearLine_promptCommand hsentinel hlaunch, hexits]
            rfl
        | false =>
            right
            exact isReady_of_start hsentinel hquiet hlaunch hexits hreceive
  · rw [Exchange.sendLine, Config.trim_promptCommand, if_neg hline] at hinstall
    cases hinstall
    rw [greet_eq hlaunch, (Interpreter.eq_of_launch hlaunch).2]
    refine ⟨rfl, ?_, rfl, ?_⟩
    · rw [Interpreter.commandLines, Interpreter.sinceStart_start]
      rfl
    · intro hnone
      cases hnone

end Greeting

/-- The line that quits is no line of a command, and does not change the script. -/
theorem host_shutdown
    (x : Exchange Interpreter) :
    (shutdown x).2.script = x.peer.script ∧ (shutdown x).2.commandLines = x.peer.commandLines := by
  have htrim : Text.trim Interpreter.quit = Interpreter.quit := by decide
  have hfits : Command.fitsOneLine Interpreter.quit = true := by decide
  have hbreak : '\n' ∉ Interpreter.quit := by decide
  rw [shutdown, Exchange.sendLine, htrim, if_pos hfits]
  cases hstage : x.peer.stage with
  | none =>
      have hpeer : x.failPending.exchange.peer.stage = none := hstage
      rw [Exchange.writeLine, Interpreter.write_of_ended hpeer]
      exact ⟨rfl, rfl⟩
  | some stage =>
      have hpeer : x.failPending.exchange.peer.stage = some stage := hstage
      rw [Exchange.writeLine_of_running hpeer hbreak]
      exact ⟨Interpreter.script_hearLine _ _, Interpreter.commandLines_hearLine_quit _⟩

/-- The ways in which a start of an idle session ends. -/
inductive Starts (s : Session Interpreter) (i : Interpreter) : Session Interpreter → Prop where
  | refused : Starts s i s
  | failed {j : Interpreter}
      (hscript : j.script = i.script)
      (hlines : j.commandLines = []) :
      Starts s i { s with link := .idle j }
  | started {x : Exchange Interpreter}
      (hscript : x.peer.script = i.script)
      (hlines : x.peer.commandLines = [])
      (hqueue : x.queue = [])
      (hmark : IsMark s.config.sentinel)
      (hlevel : x.IsLevel s.config.sentinel) :
      Starts s i { s with link := .live x, cursor := .start }

theorem starts_start
    {s : Session Interpreter} {i : Interpreter} (hlink : s.link = .idle i)
    (hsentinel : i.script.sentinel = s.config.sentinel) (hquiet : i.script.OpensQuietly) :
    Starts s i s.start.1 := by
  rw [start, hlink]
  simp only
  cases hflaw : s.config.flaw? with
  | some flaw => exact .refused
  | none =>
      cases hlaunch : Host.launch i s.config.ghciPath (s.config.ghciArgs ++ s.module.toList) with
      | none => exact .refused
      | some launched =>
          rcases launched with ⟨speech, j⟩
          rcases hinstall : installPrompt s.config (greet s.config j speech) with ⟨x, fault⟩
          rcases installPrompt_greet hsentinel hquiet hflaw hlaunch hinstall with
            ⟨hscript, hlines, hqueue, hlevel⟩
          simp only [hinstall]
          cases fault with
          | some fault =>
              rcases host_shutdown x with ⟨hscript', hlines'⟩
              exact .failed (hscript'.trans hscript) (hlines'.trans hlines)
          | none => exact .started hscript hlines hqueue (hlevel rfl).1 (hlevel rfl).2

end Session
end GhciBridge
