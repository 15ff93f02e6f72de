import GhciBridge.Proofs.Session.Dialogue
import GhciBridge.Proofs.Session.Opening
import GhciBridge.Proofs.Session.Operation

/-!
# Written commands

Of the commands that an exchange is given, some are written and the others are
not.  The written ones come first, and each gets what it makes of the reply of its
own number: every reply either ends in its only prompt or has no prompt at all, and
a reply without a prompt ends in a fatal fault.  The others get nothing.
-/

namespace GhciBridge

namespace Script

/-- A script whose opening is quiet and whose replies are texts with a prompt
behind them, or texts without a prompt. -/
structure IsRegular (script : Script) : Prop where
  opening : script.OpensQuietly
  answers : ∀ reply ∈ script.answers,
    (∃ text, reply.IsPrompted script.sentinel text) ∨ reply.IsQuiet script.sentinel

theorem IsRegular.replyTo
    {script : Script} (h : script.IsRegular) (hmark : IsMark script.sentinel) (n : Nat) :
    (∃ text, (Interpreter.replyTo script n).IsPrompted script.sentinel text) ∨
      (Interpreter.replyTo script n).IsQuiet script.sentinel := by
  by_cases hn : n < script.answers.length
  · rw [Interpreter.replyTo, List.getD_eq_getElem _ _ hn]
    exact h.answers _ (List.getElem_mem hn)
  · left
    rw [Interpreter.replyTo, List.getD_eq_default _ _ (Nat.le_of_not_lt hn)]
    refine ⟨[], by simp [Reply.ofText, Reply.print], ?_, rfl⟩
    intro hheld
    have hlength := hheld.length_le
    have hpos := List.length_pos_iff.mpr hmark.nonempty
    rw [List.nil_append, List.length_dropLast] at hlength
    omega

end Script

/-!
## Commands without an answer
-/

def Unanswered (callbacks : List Callback) : Prop :=
  ∀ callback ∈ callbacks, callback.answer = none

namespace Unanswered

variable {callback : Callback} {callbacks others : List Callback}

theorem nil :
    Unanswered [] := by
  intro callback hmem
  cases hmem

theorem cons
    (h : callback.answer = none) (hothers : Unanswered others) :
    Unanswered (callback :: others) := by
  intro other hmem
  rcases List.mem_cons.mp hmem with rfl | hmem
  · exact h
  · exact hothers other hmem

theorem append
    (h : Unanswered callbacks) (hothers : Unanswered others) :
    Unanswered (callbacks ++ others) := by
  intro callback hmem
  rcases List.mem_append.mp hmem with hmem | hmem
  · exact h callback hmem
  · exact hothers callback hmem

theorem of_submissions
    (submissions : List Submission) :
    Unanswered ((submissions.map Retirement.unanswered).map Retirement.callback) := by
  intro callback hmem
  rw [List.map_map, List.mem_map] at hmem
  rcases hmem with ⟨submission, -, rfl⟩
  rfl

end Unanswered

/-!
## Written commands
-/

namespace Interpreter

/-- Between two moments an interpreter has read the lines of the written commands,
and each of them was answered by the reply of its own number. -/
structure Answered (i j : Interpreter) (written : List Callback) : Prop where
  script : j.script = i.script
  lines : j.commandLines = i.commandLines ++ written.map fun callback => callback.command.line
  replies :
    ∀ k callback, written[k]? = some callback →
      (replyTo i.script (i.commandLines.length + k)).Answers i.script.sentinel
        callback.command callback.answer

namespace Answered

variable {i j k : Interpreter}

theorem of_unwritten
    (hscript : j.script = i.script) (hlines : j.commandLines = i.commandLines) :
    Answered i j [] := by
  refine ⟨hscript, ?_, ?_⟩
  · rw [hlines, List.map_nil, List.append_nil]
  · intro n callback hcallback
    cases hcallback

theorem refl
    (i : Interpreter) :
    Answered i i [] :=
  of_unwritten rfl rfl

theorem trans
    {first second : List Callback} (h : Answered i j first) (h' : Answered j k second) :
    Answered i k (first ++ second) := by
  refine ⟨h'.script.trans h.script, ?_, ?_⟩
  · rw [h'.lines, h.lines, List.map_append, List.append_assoc]
  · intro n callback hcallback
    by_cases hn : n < first.length
    · rw [List.getElem?_append_left hn] at hcallback
      exact h.replies n callback hcallback
    · have hle : first.length ≤ n := Nat.le_of_not_lt hn
      rw [List.getElem?_append_right hle] at hcallback
      have hreply := h'.replies _ callback hcallback
      have hnumber : j.commandLines.length + (n - first.length) = i.commandLines.length + n := by
        rw [h.lines, List.length_append, List.length_map]
        omega
      rw [h.script, hnumber] at hreply
      exact hreply

theorem singleton
    {callback : Callback} (hscript : j.script = i.script)
    (hlines : j.commandLines = i.commandLines ++ [callback.command.line])
    (hreply :
      (replyTo i.script i.commandLines.length).Answers i.script.sentinel
        callback.command callback.answer) :
    Answered i j [callback] := by
  refine ⟨hscript, hlines, ?_⟩
  intro n other hother
  cases n with
  | zero =>
      cases hother
      exact hreply
  | succ n => cases hother

end Answered
end Interpreter

/-!
## Runs of an exchange
-/

namespace Exchange

variable {script : Script} {x : Exchange Interpreter}

theorem IsLevel.of_queue
    {sentinel : Text} (h : x.IsLevel sentinel) (queue : List Submission) :
    ({ x with queue := queue } : Exchange Interpreter).IsLevel sentinel := by
  rcases h with hended | hready
  · exact .inl hended
  · exact .inr ⟨hready.peer, hready.feed, hready.channel, hready.connected, hready.opened⟩

/-- Executing a command writes it and gives it the reply of its number, or neither
writes it nor answers it.  Without a fatal fault the exchange stays level. -/
theorem IsLevel.perform
    (h : x.IsLevel script.sentinel) (hscript : x.peer.script = script)
    (hregular : script.IsRegular) (hmark : IsMark script.sentinel)
    {command : Command} (hquit : command.line ≠ Interpreter.quit) :
    ∃ written,
      (written = [⟨command, (x.perform command).answer⟩] ∨
        written = [] ∧ (x.perform command).answer = none ∧ (x.perform command).fault ≠ none) ∧
      x.peer.Answered (x.perform command).exchange.peer written ∧
      ((x.perform command).fault.any Fault.isFatal = false →
        (x.perform command).exchange.IsLevel script.sentinel) := by
  cases hclosed : x.closed with
  | true =>
      have hperform : x.perform command = ⟨x, none, some .exited⟩ := by
        simp [Exchange.perform, hclosed]
      rw [hperform]
      exact ⟨[], .inr ⟨rfl, rfl, by simp⟩, .refl _, fun _ => h⟩
  | false =>
      cases hline : command.isSingleLine with
      | false =>
          have hperform : x.perform command = ⟨x, none, some (.multiline command.line)⟩ := by
            simp [Exchange.perform, hclosed, hline]
          rw [hperform]
          exact ⟨[], .inr ⟨rfl, rfl, by simp⟩, .refl _, fun _ => h⟩
      | true =>
          rcases h with hended | hready
          · have hwrite : x.writeLine command.line = (x, some .io) := by
              rw [writeLine, Interpreter.write_of_ended hended]
            have hperform : x.perform command = ⟨x, none, some .io⟩ := by
              simp [Exchange.perform, hclosed, hline, hwrite]
            rw [hperform]
            exact ⟨[], .inr ⟨rfl, rfl, by simp⟩, .refl _, fun _ => .inl hended⟩
          · subst hscript
            have hlines := hready.peer.commandLines_hearLine hquit
            have hkept := Interpreter.script_hearLine x.peer command.line
            rcases hregular.replyTo hmark x.peer.commandLines.length with
              ⟨text, hreply⟩ | hreply
            · rcases hready.perform_prompted hmark rfl hline hquit hreply with
                ⟨hperform, hready'⟩
              rw [hperform]
              refine ⟨_, .inl rfl, .singleton hkept hlines ⟨?_, ?_⟩, fun _ => .inr hready'⟩
              · intro other hother
                rw [hreply.eq_text hother]
              · intro hquiet
                exact absurd hquiet hreply.not_isQuiet
            · rcases hready.perform_quiet rfl hline hquit hreply with
                ⟨y, fault, hperform, hpeer, hfatal⟩
              rw [hperform]
              refine ⟨_, .inl rfl, ?_, ?_⟩
              · rw [hpeer]
                refine .singleton hkept hlines ⟨?_, fun _ => rfl⟩
                intro text hprompted
                exact absurd hreply hprompted.not_isQuiet
              · intro hmild
                rw [Option.any_some, hfatal] at hmild
                cases hmild

/-- The callbacks behind the written ones are those without an answer, whether the
first of all was written or not. -/
theorem exists_unwritten
    {command : Command} {outcome : Outcome Interpreter} {written tail : List Callback}
    (hwritten :
      written = [⟨command, outcome.answer⟩] ∨
        written = [] ∧ outcome.answer = none ∧ outcome.fault ≠ none)
    (htail : Unanswered tail) :
    ∃ unwritten, ⟨command, outcome.answer⟩ :: tail = written ++ unwritten ∧
      Unanswered unwritten := by
  rcases hwritten with rfl | ⟨rfl, hnone, -⟩
  · exact ⟨tail, rfl, htail⟩
  · exact ⟨⟨command, outcome.answer⟩ :: tail, rfl, .cons hnone htail⟩

/-- What a run of an exchange writes comes first among the retired commands, and
the others are retired without an answer. -/
structure IsPaired (script : Script) (x : Exchange Interpreter) (run : Run Interpreter)
    (written unwritten : List Callback) : Prop where
  retired : run.retired.map Retirement.callback = written ++ unwritten
  unanswered : Unanswered unwritten
  answered : x.peer.Answered run.exchange.peer written
  level : run.isFatal = false → run.exchange.IsLevel script.sentinel

theorem IsLevel.execute
    (h : x.IsLevel script.sentinel) (hscript : x.peer.script = script)
    (hregular : script.IsRegular) (hmark : IsMark script.sentinel)
    {submission : Submission} (hquit : submission.command.line ≠ Interpreter.quit) :
    ∃ written unwritten, IsPaired script x (x.execute submission) written unwritten := by
  rcases h.perform hscript hregular hmark hquit with ⟨written, hwritten, hanswered, hlevel⟩
  rcases exists_unwritten hwritten .nil with ⟨unwritten, hsplit, hnone⟩
  exact ⟨written, unwritten, hsplit, hnone, hanswered, hlevel⟩

/-- Running a queue writes its commands in order up to the first that ends in a
fault. -/
theorem IsLevel.runAll
    (hregular : script.IsRegular) (hmark : IsMark script.sentinel)
    {submissions : List Submission}
    (hquit : ∀ submission ∈ submissions, submission.command.line ≠ Interpreter.quit)
    (h : x.IsLevel script.sentinel) (hscript : x.peer.script = script) :
    ∃ written unwritten, IsPaired script x (runAll submissions x) written unwritten := by
  induction submissions generalizing x with
  | nil =>
      refine ⟨[], [], rfl, .nil, ?_, ?_⟩
      · exact .of_unwritten rfl rfl
      · intro _
        exact h.of_queue []
  | cons submission waiting ih =>
      have hfirst := hquit submission List.mem_cons_self
      have hothers : ∀ other ∈ waiting, other.command.line ≠ Interpreter.quit :=
        fun other hother => hquit other (List.mem_cons_of_mem submission hother)
      rcases h.perform hscript hregular hmark hfirst with ⟨first, hwritten, hanswered, hlevel⟩
      rw [Exchange.runAll]
      cases hfault : (x.perform submission.command).fault with
      | none =>
          have hlevel' := hlevel (by rw [hfault]; rfl)
          have hscript' := hanswered.script.trans hscript
          rcases ih hothers hlevel' hscript' with ⟨written, unwritten, hrest⟩
          rcases hwritten with rfl | ⟨-, -, hnever⟩
          · refine
              ⟨_, unwritten, ?_, hrest.unanswered, hanswered.trans hrest.answered, hrest.level⟩
            simp only [List.map_cons, hrest.retired]
            rfl
          · exact absurd hfault hnever
      | some fault =>
          simp only
          cases hfatal : fault.isFatal with
          | true =>
              rcases exists_unwritten hwritten (.of_submissions waiting) with
                ⟨unwritten, hsplit, hnone⟩
              refine ⟨first, unwritten, hsplit, hnone, ?_, ?_⟩
              · exact ⟨hanswered.script, hanswered.lines, hanswered.replies⟩
              · intro hmild
                have hmild' : fault.isFatal = false := hmild
                rw [hfatal] at hmild'
                cases hmild'
          | false =>
              rcases exists_unwritten hwritten .nil with ⟨unwritten, hsplit, hnone⟩
              refine ⟨first, unwritten, hsplit, hnone, ?_, ?_⟩
              · exact ⟨hanswered.script, hanswered.lines, hanswered.replies⟩
              · intro _
                exact (hlevel (by rw [hfault, Option.any_some, hfatal])).of_queue waiting

end Exchange

end GhciBridge
