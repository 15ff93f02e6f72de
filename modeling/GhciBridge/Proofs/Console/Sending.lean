import GhciBridge.Console.Basic
import GhciBridge.Proofs.Console.Wording
import GhciBridge.Proofs.Session.Delivery

/-!
# What a request sends

A request with a text in it is carried out by one query or two.  A query hands nothing
to the interpreter but the line of its command, and the text stands in that line whole.
-/

namespace GhciBridge

/-- The lines by which a request for a text asks ghci about it. -/
def Request.lines (printer : Text) : Request → List Text
  | .trace expression => [":trace ".toList ++ expression]
  | .typeOf expression => [":type ".toList ++ expression]
  | .print expression =>
      [":type ".toList ++ expression, Text.trim (printer ++ " (".toList ++ expression ++ [')'])]
  | .force expression => [":force ".toList ++ expression]
  | .load path => [":load ".toList ++ path]
  | .raw text => [text]
  | _ => []

namespace Session

variable {η : Type} [Host η]

/-- What becomes of a host that is handed none but these lines, and whose interpreters may
be told to quit and are waited for then. -/
inductive Hands (lines : List Text) (host : η) : η → Prop where
  | nothing : Hands lines host host
  | line {next : η} {line : Text}
      (h : Hands lines host next)
      (hline : line ∈ lines) :
      Hands lines host (Peer.write next (line ++ ['\n'])).2
  | ended {next : η}
      (h : Hands lines host next) :
      Hands lines host (Peer.reap (Peer.write next (inputLine Interpreter.quit)).2)

theorem Hands.mono
    {lines lines' : List Text} {host next : η} (h : Hands lines host next)
    (hsubset : lines ⊆ lines') :
    Hands lines' host next := by
  induction h with
  | nothing => exact .nothing
  | line h hline ih => exact .line ih (hsubset hline)
  | ended h ih => exact .ended ih

theorem Hands.trans
    {lines : List Text} {host next last : η} (h : Hands lines host next)
    (h' : Hands lines next last) :
    Hands lines host last := by
  induction h' with
  | nothing => exact h
  | line h' hline ih => exact .line ih hline
  | ended h' ih => exact .ended ih

/-- An interpreter is told to quit exactly if it is waited for. -/
theorem Hands.leaving
    {lines : List Text} {host next : η} (h : Hands lines host next) (s t : Session η) :
    Hands lines host (s.leaving t (Peer.fed next (s.parting t))) := by
  rw [Session.leaving, parting]
  split
  · exact .ended h
  · exact h

/-- From one session to the other the host is handed none but these lines, and the line
that ends a session. -/
def Sends (lines : List Text) (s t : Session η) : Prop :=
  Hands lines s.link.host t.link.host

/-- A query hands over the line of its command, if anything. -/
theorem sends_query
    (s : Session η) (query : Query) {command : Command}
    (hcommand : s.command? query = some command) :
    s.Sends [command.line] (s.query query) := by
  cases feeds_query s query with
  | launched hstart => cases hstart
  | unread hstart => cases hstart
  | dictated hreader hhost =>
      change Hands [command.line] s.link.host (s.apply (.query query)).link.host
      rw [hhost]
      cases hlink : s.link with
      | idle host =>
          rw [leaving_of_idle (isRunning_of_idle hlink), dictated, hlink]
          exact .nothing
      | live x =>
          have hran : s.ran (.query query) = [] := by
            rw [ran, hlink]
          have hdictated : s.dictated (.query query) =
              (([command].filter x.writes).map fun c => inputLine c.payload) ++
                s.parting (s.apply (.query query)) := by
            rw [dictated, hlink]
            simp only
            rw [sent_of_live hlink, hran, ownLines, hcommand, List.map_nil, List.filter_nil,
              List.map_nil, List.append_nil]
            rfl
          rw [hdictated, Peer.fed_append]
          apply Hands.leaving
          cases hwrites : x.writes command with
          | false =>
              rw [List.filter_cons_of_neg (Bool.not_eq_true _ ▸ hwrites)]
              exact .nothing
          | true =>
              rw [List.filter_cons_of_pos hwrites]
              exact .line .nothing (List.mem_singleton_self _)

theorem config_ask
    (s : Session η) (command : Command) :
    (s.ask command).1.config = s.config := by
  cases hlink : s.link with
  | idle host => rw [ask_of_idle hlink]
  | live x =>
      cases hfault : (x.perform command).fault with
      | none => rw [ask_of_none hlink hfault]
      | some fault =>
          rw [ask_of_fault hlink hfault]
          cases hfatal : (consult x command).isFatal with
          | false => rw [afterRun_of_mild hfatal]
          | true => rw [afterRun_of_fatal hfatal]

/-!
## The lines of requests
-/

/-- Behind its word the argument of a command is left as it is, since there is one: with
none the blank in front of it would be lost, and the line would be the word alone. -/
theorem trim_behind
    {word argument : Text} (hword : word ≠ []) (hstart : Text.startsBlank word = false)
    (hne : argument ≠ []) (htrim : Text.trim argument = argument) :
    Text.trim (word ++ Text.trim argument) = word ++ argument := by
  rw [htrim]
  exact Text.trim_append hword hstart hne (Text.trim_eq_self_iff.mp htrim).2

variable {argument : Text} (hne : argument ≠ []) (htrim : Text.trim argument = argument)
include hne htrim

theorem sends_typeOf
    (s : Session η) :
    s.Sends [":type ".toList ++ argument] (s.typeOf argument).1 := by
  have hline : (Command.typeOf argument).line = ":type ".toList ++ argument :=
    trim_behind (by decide) (by decide) hne htrim
  rw [← hline]
  exact sends_query s (.typeOf argument) rfl

omit hne in
theorem sends_evaluate
    (s : Session η) (typeName : Option Text) :
    s.Sends [Text.trim (s.config.printer ++ " (".toList ++ argument ++ [')'])]
      (s.evaluate argument typeName).1 := by
  have hsends := sends_query s (.evaluate argument typeName) rfl
  have hline : (Command.evaluate s.config.printer argument).line =
      Text.trim (s.config.printer ++ " (".toList ++ argument ++ [')']) := by
    nth_rewrite 2 [← htrim]
    rfl
  rw [← hline]
  exact hsends

/-- An expression is printed with its type, or without it when it has none; when ghci is
gone it is asked for nothing more. -/
theorem sends_print
    (s : Session η) :
    s.Sends ((Request.print argument).lines s.config.printer) (Console.print s argument).1 := by
  have hasked : s.Sends ((Request.print argument).lines s.config.printer)
      (s.typeOf argument).1 :=
    (sends_typeOf hne htrim s).mono (List.cons_subset_cons _ (List.nil_subset _))
  have hconfig : (s.typeOf argument).1.config = s.config :=
    (agrees_query s (.typeOf argument)).config.trans (config_ask s (.typeOf argument))
  rw [Console.print]
  generalize s.typeOf argument = step at hasked hconfig ⊢
  rcases step with ⟨t, result⟩
  have hprinted (typeName : Option Text) :
      s.Sends ((Request.print argument).lines s.config.printer)
        (t.evaluate argument typeName).1 := by
    apply hasked.trans
    rw [← hconfig]
    exact (sends_evaluate htrim t typeName).mono (List.subset_cons_self _ _)
  cases result with
  | ok type => exact hprinted (some type)
  | error fault =>
      simp only
      split
      · exact hasked
      · exact hprinted none

theorem sends_carryOut
    {request : Request} (htext : request.arguments.text? = some argument) (s : Session η) :
    s.Sends (request.lines s.config.printer) (Console.carryOut s request).1 := by
  cases request with
  | trace expression =>
      cases htext
      have hline : (Command.trace argument).line = ":trace ".toList ++ argument :=
        trim_behind (by decide) (by decide) hne htrim
      rw [Request.lines, ← hline]
      exact sends_query s (.trace argument) rfl
  | typeOf expression =>
      cases htext
      exact sends_typeOf hne htrim s
  | print expression =>
      cases htext
      exact sends_print hne htrim s
  | force expression =>
      cases htext
      have hline : (Command.force argument).line = ":force ".toList ++ argument :=
        trim_behind (by decide) (by decide) hne htrim
      rw [Request.lines, ← hline]
      exact sends_query s (.force argument) rfl
  | load path =>
      cases htext
      have hline : (Command.load (Text.trim argument)).line = ":load ".toList ++ argument :=
        trim_behind (by decide) (by decide) hne htrim
      rw [Request.lines, ← hline]
      exact sends_query s (.load argument) rfl
  | raw text =>
      cases htext
      have hline : (Command.raw argument).line = argument := htrim
      have hsends := sends_query s (.raw argument) rfl
      rw [hline] at hsends
      exact hsends
  | _ => cases htext

end Session

namespace Request

/-- Each request that can be asked for is written in some text, and read back wherever it
is written.  A request for a text is read only where that text is written; so it is there,
and nothing is sent without it. -/
theorem read_back_with_argument
    (request : Request) :
    (request ≠ .empty → request ≠ .step .runToPosition → request.arguments.IsWritable →
      (∃ text, request.IsWritten text) ∧
        ∀ before text after, request.IsWritten text →
          Text.allBlank before = true → Text.allBlank after = true →
            read (before ++ text ++ after) = .ok request) ∧
      ∀ line argument, read line = .ok request → request.arguments.text? = some argument →
        (argument ≠ [] ∧ Text.trim argument = argument ∧ request.IsWrittenOn line) ∧
          ∀ (η : Type) [Host η] (s : Session η),
            s.Sends (request.lines s.config.printer) (Console.carryOut s request).1 := by
  constructor
  · intro hempty hstep hwritable
    refine ⟨exists_isWritten hempty hstep, ?_⟩
    intro before text after hwritten hbefore hafter
    apply IsWrittenOn.read_eq
    exact ⟨hwritable, before, text, after, hbefore, hafter, hwritten, rfl⟩
  · intro line argument hread htext
    have hwritten := (read_eq_ok_iff htext).mp hread
    rcases hwritten.writable.text htext with ⟨hne, htrim⟩
    refine ⟨⟨hne, htrim, hwritten⟩, ?_⟩
    intro η _ s
    exact Session.sends_carryOut hne htrim htext s

/-- Between a keyword and its argument any blank will do, but only some of them between the
name of a module and a number. -/
theorem read_back_break_and_print :
    read " break\u3000Main.Sub \t12\n".toList = .ok (.setBreakpoint "Main.Sub".toList 12) ∧
      read "p\u3000:x \n".toList = .ok (.print ":x".toList) ∧
      ∀ s : Session Interpreter,
        s.Sends
          [":type :x".toList, Text.trim (s.config.printer ++ " (".toList ++ ":x".toList ++ [')'])]
          (Console.carryOut s (.print ":x".toList)).1 := by
  have hgap : ShellWords.IsGap [' ', '\t'] := ⟨by decide, by simp⟩
  have hmodule : ShellWords.IsPlain "Main.Sub".toList := ⟨by decide, by simp, by decide⟩
  have hbreak : IsWritten (.setBreakpoint "Main.Sub".toList 12)
      ("break".toList ++ ['\u3000'] ++ ("Main.Sub".toList ++ [' ', '\t'] ++ Text.ofNat 12)) :=
    .behind (by decide) (by decide) (by decide) (.spot _ 12 hgap)
  have hprint : IsWritten (.print ":x".toList) ("p".toList ++ ['\u3000'] ++ ":x".toList) :=
    .behind (by decide) (by decide) (by decide) (.text _)
  have hbreaks := (read_back_with_argument (.setBreakpoint "Main.Sub".toList 12)).1
    nofun nofun ⟨hmodule, by decide⟩
  have hprints := (read_back_with_argument (.print ":x".toList)).1 nofun nofun
    ⟨by decide, by decide⟩
  have hread : read "p\u3000:x \n".toList = .ok (.print ":x".toList) :=
    hprints.2 [] _ [' ', '\n'] hprint (by decide) (by decide)
  refine ⟨?_, hread, ?_⟩
  · have hline : " break\u3000Main.Sub \t12\n".toList =
        [' '] ++ ("break".toList ++ ['\u3000'] ++
          ("Main.Sub".toList ++ [' ', '\t'] ++ Text.ofNat 12)) ++ ['\n'] := by decide
    rw [hline]
    exact hbreaks.2 _ _ _ hbreak (by decide) (by decide)
  · exact ((read_back_with_argument (.print ":x".toList)).2 _ _ hread rfl).2 Interpreter

end Request
end GhciBridge
