import GhciBridge.Proofs.Wire.Answer

/-!
# The events of a stream

The events of a stream are those of its lines one after the other, up to the first
line that is no text, and behind them the end of the output.  So a stream can be
read in parts where a line ends, and an interpreter that prints lines and prompts is
understood to have printed these lines and these prompts, with either line end.
-/

namespace GhciBridge

/-!
## Lines of bytes
-/

namespace Lines

variable {α : Type} [DecidableEq α] {stop : α} {front : List α}

/-- Behind a stop a new line begins. -/
theorem cut_snd_eq_nil
    (hfront : front = [] ∨ front.getLast? = some stop) :
    (cut stop front).2 = [] := by
  rcases hfront with rfl | hlast
  · rfl
  · rcases suffix_cut stop front with ⟨lines, hlines⟩
    rcases List.eq_nil_or_concat (cut stop front).2 with hnil | ⟨last, a, hconcat⟩
    · exact hnil
    · rw [List.concat_eq_append] at hconcat
      rw [← hlines, hconcat, ← List.append_assoc, List.getLast?_concat, Option.some.injEq] at hlast
      have hstop := notMem_cut_snd stop front
      rw [hconcat, hlast] at hstop
      exact absurd (List.mem_append_right last (List.mem_singleton_self stop)) hstop

theorem all_of_cut
    (hfront : (cut stop front).2 = []) :
    all stop front = (cut stop front).1 := by
  simp only [all, hfront, if_true]

theorem all_append
    (hfront : (cut stop front).2 = []) (rest : List α) :
    all stop (front ++ rest) = all stop front ++ all stop rest := by
  rw [all_of_cut hfront]
  simp only [all, cut_append stop front, hfront, List.nil_append]
  split
  · rfl
  · exact List.append_assoc ..

theorem all_of_notMem
    (hne : front ≠ []) (hfront : stop ∉ front) :
    all stop front = [front] := by
  have hcut := cut_append_of_notMem hfront []
  rw [List.append_nil] at hcut
  simp [all, hcut, cut, extend, hne]

theorem all_terminated
    (hfront : stop ∉ front) (rest : List α) :
    all stop (front ++ stop :: rest) = (front ++ [stop]) :: all stop rest := by
  simp only [all, cut_terminated hfront]
  split
  · rfl
  · rfl

end Lines

/-!
## Bytes that are no text
-/

theorem decodeUtf8?_eq_some_iff
    {bytes : List UInt8} {text : Text} :
    decodeUtf8? bytes = some text ↔ bytes = encodeUtf8 text := by
  constructor
  · intro h
    rw [decodeUtf8?, String.fromUTF8?, Option.map_eq_some_iff] at h
    rcases h with ⟨string, hstring, rfl⟩
    split at hstring
    · next hvalid =>
        rw [Option.some.injEq] at hstring
        rw [encodeUtf8, String.ofList_toList, ← hstring]
        rfl
    · cases hstring
  · rintro rfl
    exact decodeUtf8?_encodeUtf8 text

/-- A line break at the end of encoded text is the last character. -/
theorem exists_of_encodeUtf8_eq_concat
    {text : Text} {bytes : List UInt8} (h : encodeUtf8 text = bytes ++ [Feed.lineBreak]) :
    ∃ front, bytes = encodeUtf8 front := by
  rcases List.eq_nil_or_concat text with rfl | ⟨front, c, rfl⟩
  · rw [encodeUtf8_nil] at h
    exact absurd h.symm (List.concat_ne_nil _ _)
  · rw [List.concat_eq_append, encodeUtf8_append] at h
    by_cases hc : c = '\n'
    · rw [hc] at h
      have hbreak : encodeUtf8 ['\n'] = [Feed.lineBreak] := by decide
      rw [hbreak] at h
      exact ⟨front, (List.append_cancel_right h).symm⟩
    · have hcode : encodeUtf8 [c] ≠ [] := fun hnil =>
        List.cons_ne_nil c [] (encodeUtf8_eq_nil_iff.mp hnil)
      have hlast := congrArg List.getLast? h
      rw [List.getLast?_concat, List.getLast?_append_of_ne_nil _ hcode] at hlast
      have hmem := List.mem_of_getLast? hlast
      rw [encodeUtf8_eq_flatMap, List.flatMap_singleton] at hmem
      exact absurd hmem (lineBreak_notMem_utf8EncodeChar hc)

theorem decodeUtf8?_concat_eq_none
    {bytes : List UInt8} (h : decodeUtf8? bytes = none) :
    decodeUtf8? (bytes ++ [Feed.lineBreak]) = none := by
  cases hdecode : decodeUtf8? (bytes ++ [Feed.lineBreak]) with
  | none => rfl
  | some text =>
      rcases exists_of_encodeUtf8_eq_concat (decodeUtf8?_eq_some_iff.mp hdecode).symm with
        ⟨front, rfl⟩
      rw [decodeUtf8?_encodeUtf8] at h
      cases h

/-!
## Lines and prompts
-/

namespace Event

theorem closed_notMem_classify
    (sentinel line : Text) :
    .closed ∉ classify sentinel line := by
  by_cases hprompt : prompt ∈ classify sentinel line
  · cases hcut : Text.breakOn? sentinel (dropLineEnd line) with
    | none =>
        have hheld := prompt_mem_classify_iff.mp hprompt
        exact absurd hheld (Text.breakOn?_eq_none_iff.mp hcut)
    | some cut =>
        rw [classify_of_breakOn? hcut]
        simp
  · rw [prompt_mem_classify_iff] at hprompt
    rw [classify_of_absent hprompt]
    simp

/-- A line without its end is what stands in front of the line breaks and carriage
returns at the end. -/
theorem dropLineEnd_append
    {text lineEnd : Text} (htext : ∀ c, text.getLast? = some c → c ≠ '\r' ∧ c ≠ '\n')
    (hend : ∀ c ∈ lineEnd, c = '\r' ∨ c = '\n') :
    dropLineEnd (text ++ lineEnd) = text := by
  have hfront : ∀ c ∈ lineEnd.reverse, (c == '\r' || c == '\n') = true := by
    intro c hc
    rw [Bool.or_eq_true, beq_iff_eq, beq_iff_eq]
    exact hend c (List.mem_reverse.mp hc)
  have hrest : ∀ c, text.reverse.head? = some c → (c == '\r' || c == '\n') = false := by
    intro c hc
    rw [List.head?_reverse] at hc
    rw [Bool.or_eq_false_iff, beq_eq_false_iff_ne, beq_eq_false_iff_ne]
    exact htext c hc
  have hspan := Text.takeWhile_append_of_stop hfront hrest
  rw [dropLineEnd, List.reverse_append, hspan.2, List.reverse_reverse]

/-- The prompt that ghci prints on a line of its own. -/
theorem classify_sentinel
    {sentinel : Text} (hlast : ∀ c, sentinel.getLast? = some c → c ≠ '\r' ∧ c ≠ '\n') :
    classify sentinel (sentinel ++ ['\n']) = [.prompt] := by
  have hline : dropLineEnd (sentinel ++ ['\n']) = sentinel :=
    dropLineEnd_append hlast (by simp)
  have hcut : Text.breakOn? sentinel (dropLineEnd (sentinel ++ ['\n'])) = some ([], []) := by
    rw [hline]
    cases sentinel with
    | nil => rfl
    | cons c sentinel =>
        have hhead := Text.afterPrefix?_append (c :: sentinel) []
        rw [List.append_nil] at hhead
        rw [Text.breakOn?, hhead]
  rw [classify_of_breakOn? hcut]
  rfl

end Event

/-!
## Streams
-/

namespace Feed

/-- The events of lines with nothing behind them. -/
def readToEnd (sentinel : Text) : List (List UInt8) → List Event
  | [] => [.closed]
  | line :: lines =>
      match decodeUtf8? line with
      | none => [.closed]
      | some text => Event.classify sentinel text ++ readToEnd sentinel lines

theorem readToEnd_eq
    (sentinel : Text) (lines : List (List UInt8)) :
    readToEnd sentinel lines =
      (readLines sentinel lines).1 ++ if (readLines sentinel lines).2 then [.closed] else [] := by
  induction lines with
  | nil => rfl
  | cons line lines ih =>
      rw [readToEnd, readLines]
      cases decodeUtf8? line with
      | none => rfl
      | some text =>
          simp only
          rw [ih, List.append_assoc]

theorem readLines_append
    (sentinel : Text) (front behind : List (List UInt8)) :
    readLines sentinel (front ++ behind) =
      if (readLines sentinel front).2 then
        ((readLines sentinel front).1 ++ (readLines sentinel behind).1,
          (readLines sentinel behind).2)
      else readLines sentinel front := by
  induction front with
  | nil => rfl
  | cons line front ih =>
      rw [List.cons_append, readLines, readLines]
      cases decodeUtf8? line with
      | none => rfl
      | some text =>
          simp only [ih]
          split
          · rw [List.append_assoc]
          · rfl

/-- It does not show in the events that the last line came without a line break. -/
theorem events_eq
    (sentinel : Text) (bytes : List UInt8) :
    events sentinel bytes = readToEnd sentinel (Lines.all lineBreak bytes) := by
  have hall : Lines.all lineBreak bytes =
      (Lines.cut lineBreak bytes).1 ++
        if (Lines.cut lineBreak bytes).2 = [] then [] else [(Lines.cut lineBreak bytes).2] := by
    simp only [Lines.all]
    split
    · rw [List.append_nil]
    · rfl
  rw [readToEnd_eq, hall, readLines_append]
  simp only [events, start, push, List.nil_append, Bool.false_eq_true, if_false]
  cases hfront : (readLines sentinel (Lines.cut lineBreak bytes).1).2 with
  | false => simp [finish, hfront]
  | true =>
      simp only [finish, Bool.not_true, Bool.false_eq_true, if_false, if_true]
      rcases readLines sentinel
          (if (Lines.cut lineBreak bytes).2 = [] then [] else [(Lines.cut lineBreak bytes).2])
        with ⟨last, complete⟩
      cases complete with
      | true => exact (List.append_assoc ..).symm
      | false => exact (List.append_nil _).symm

/-- A line that is no text ends the reading, and nothing behind it counts. -/
theorem readToEnd_of_undecodable
    {line : List UInt8} (hline : decodeUtf8? line = none) (sentinel : Text)
    (front behind : List (List UInt8)) :
    readToEnd sentinel (front ++ line :: behind) = readToEnd sentinel front := by
  induction front with
  | nil => simp only [List.nil_append, readToEnd, hline]
  | cons first front ih =>
      rw [List.cons_append, readToEnd, readToEnd]
      cases decodeUtf8? first with
      | none => rfl
      | some text => exact congrArg _ ih

theorem readToEnd_map_encodeUtf8
    (sentinel : Text) (texts : List Text) (lines : List (List UInt8)) :
    readToEnd sentinel (texts.map encodeUtf8 ++ lines) =
      texts.flatMap (Event.classify sentinel) ++ readToEnd sentinel lines := by
  induction texts with
  | nil => rfl
  | cons text texts ih =>
      rw [List.map_cons, List.cons_append, readToEnd, decodeUtf8?_encodeUtf8]
      simp only
      rw [ih, List.flatMap_cons, List.append_assoc]

/-- The end of the output is told once, and last. -/
theorem exists_readToEnd
    (sentinel : Text) (lines : List (List UInt8)) :
    ∃ front, readToEnd sentinel lines = front ++ [.closed] ∧ .closed ∉ front := by
  induction lines with
  | nil => exact ⟨[], rfl, List.not_mem_nil⟩
  | cons line lines ih =>
      rw [readToEnd]
      cases decodeUtf8? line with
      | none => exact ⟨[], rfl, List.not_mem_nil⟩
      | some text =>
          rcases ih with ⟨front, hfront, hclosed⟩
          refine ⟨Event.classify sentinel text ++ front, ?_, ?_⟩
          · simp only
            rw [hfront, List.append_assoc]
          · rw [List.mem_append, not_or]
            exact ⟨Event.closed_notMem_classify sentinel text, hclosed⟩

/-- Behind complete lines of text the reading goes on as if it had just begun. -/
theorem events_encodeUtf8_append
    {text : Text} (htext : (Lines.cut '\n' text).2 = []) (sentinel : Text) (bytes : List UInt8) :
    events sentinel (encodeUtf8 text ++ bytes) =
      (Lines.all '\n' text).flatMap (Event.classify sentinel) ++ events sentinel bytes := by
  have hlast : (Lines.cut lineBreak (encodeUtf8 text)).2 = [] := by
    rw [cut_encodeUtf8, htext, encodeUtf8_nil]
  rw [events_eq, Lines.all_append hlast, all_encodeUtf8, readToEnd_map_encodeUtf8, events_eq]

theorem events_encodeUtf8
    {text : Text} (htext : (Lines.cut '\n' text).2 = []) (sentinel : Text) :
    events sentinel (encodeUtf8 text) =
      (Lines.all '\n' text).flatMap (Event.classify sentinel) ++ [.closed] := by
  have hevents := events_encodeUtf8_append htext sentinel []
  rw [List.append_nil] at hevents
  exact hevents

/-- A line of bytes that are no text begins where the lines in front of it end. -/
theorem events_of_undecodable
    {front body behind : List UInt8} (hfront : front = [] ∨ front.getLast? = some lineBreak)
    (hbody : lineBreak ∉ body) (hbad : decodeUtf8? body = none)
    (hbehind : behind = [] ∨ behind.head? = some lineBreak) (sentinel : Text) :
    events sentinel (front ++ body ++ behind) = events sentinel front := by
  have hsplit : ∃ line lines,
      Lines.all lineBreak (body ++ behind) = line :: lines ∧ decodeUtf8? line = none := by
    cases behind with
    | nil =>
        have hne : body ≠ [] := by
          rintro rfl
          rw [← encodeUtf8_nil, decodeUtf8?_encodeUtf8] at hbad
          cases hbad
        rw [List.append_nil]
        exact ⟨body, [], Lines.all_of_notMem hne hbody, hbad⟩
    | cons b behind =>
        have hb : b = lineBreak := by
          rcases hbehind with hnil | hhead
          · cases hnil
          · exact Option.some.inj hhead
        rw [hb]
        exact ⟨_, _, Lines.all_terminated hbody behind, decodeUtf8?_concat_eq_none hbad⟩
  rcases hsplit with ⟨line, lines, hlines, hline⟩
  rw [events_eq, List.append_assoc, Lines.all_append (Lines.cut_snd_eq_nil hfront), hlines,
    readToEnd_of_undecodable hline, events_eq]

end Feed

/-!
## Printed answers
-/

/-- A line as it is printed, with or without a carriage return in front of its line
break. -/
structure PrintedLine where
  text : Text
  returns : Bool
deriving DecidableEq, Repr

namespace PrintedLine

def lineEnd (line : PrintedLine) : Text :=
  if line.returns then ['\r', '\n'] else ['\n']

def print (line : PrintedLine) : Text :=
  line.text ++ line.lineEnd

/-- A line that can be told from its end and from a prompt. -/
structure IsClear (sentinel : Text) (line : PrintedLine) : Prop where
  lineBreak : '\n' ∉ line.text
  carriageReturn : line.text.getLast? ≠ some '\r'
  quiet : ¬ sentinel <:+: line.text

variable {sentinel : Text} {line : PrintedLine}

theorem IsClear.all_print
    (hline : line.IsClear sentinel) (rest : Text) :
    Lines.all '\n' (line.print ++ rest) = line.print :: Lines.all '\n' rest := by
  rcases line with ⟨text, returns⟩
  cases returns with
  | false =>
      show Lines.all '\n' (text ++ ['\n'] ++ rest) = (text ++ ['\n']) :: _
      rw [List.append_assoc]
      exact Lines.all_terminated hline.lineBreak rest
  | true =>
      have hfront : '\n' ∉ text ++ ['\r'] := by
        rw [List.mem_append, not_or]
        exact ⟨hline.lineBreak, by decide⟩
      show Lines.all '\n' (text ++ ['\r', '\n'] ++ rest) = (text ++ ['\r', '\n']) :: _
      have hall := Lines.all_terminated hfront rest
      rw [List.append_assoc, List.append_assoc] at hall
      rw [List.append_assoc]
      exact hall

theorem IsClear.classify_print
    (hline : line.IsClear sentinel) :
    Event.classify sentinel line.print = [.line line.text] := by
  have hlast : ∀ c, line.text.getLast? = some c → c ≠ '\r' ∧ c ≠ '\n' := by
    rintro c hc
    constructor
    · rintro rfl
      exact hline.carriageReturn hc
    · rintro rfl
      exact hline.lineBreak (List.mem_of_getLast? hc)
  have hend : ∀ c ∈ line.lineEnd, c = '\r' ∨ c = '\n' := by
    rw [lineEnd]
    split
    · exact List.forall_mem_cons.mpr ⟨.inl rfl, List.forall_mem_singleton.mpr (.inr rfl)⟩
    · exact List.forall_mem_singleton.mpr (.inr rfl)
  have hdrop := Event.dropLineEnd_append hlast hend
  rw [← print] at hdrop
  rw [Event.classify_of_absent (hdrop.symm ▸ hline.quiet), hdrop]

theorem flatMap_classify_print
    {lines : List PrintedLine} (hlines : ∀ line ∈ lines, line.IsClear sentinel) :
    (lines.map print).flatMap (Event.classify sentinel) =
      lines.map fun line => .line line.text := by
  induction lines with
  | nil => rfl
  | cons line lines ih =>
      rw [List.forall_mem_cons] at hlines
      rw [List.map_cons, List.flatMap_cons, hlines.1.classify_print, ih hlines.2]
      rfl

end PrintedLine

/-- An answer as it is printed: its lines, and the sentinel on a line of its own. -/
def printAnswer (sentinel : Text) (lines : List PrintedLine) : Text :=
  lines.flatMap PrintedLine.print ++ sentinel ++ ['\n']

namespace Feed

theorem all_printAnswer
    {sentinel : Text} {lines : List PrintedLine} (hsentinel : '\n' ∉ sentinel)
    (hlines : ∀ line ∈ lines, line.IsClear sentinel) (rest : Text) :
    Lines.all '\n' (printAnswer sentinel lines ++ rest) =
      lines.map PrintedLine.print ++ (sentinel ++ ['\n']) :: Lines.all '\n' rest := by
  induction lines with
  | nil =>
      rw [printAnswer, List.flatMap_nil, List.nil_append, List.append_assoc]
      exact Lines.all_terminated hsentinel rest
  | cons line lines ih =>
      rw [List.forall_mem_cons] at hlines
      have hprint : printAnswer sentinel (line :: lines) =
          line.print ++ printAnswer sentinel lines := by
        rw [printAnswer, printAnswer, List.flatMap_cons, List.append_assoc, List.append_assoc,
          List.append_assoc]
      rw [hprint, List.append_assoc, hlines.1.all_print, ih hlines.2]
      rfl

theorem cut_printAnswers
    {sentinel : Text} (answers : List (List PrintedLine)) :
    (Lines.cut '\n' (answers.flatMap (printAnswer sentinel))).2 = [] := by
  apply Lines.cut_snd_eq_nil
  rcases List.eq_nil_or_concat answers with rfl | ⟨front, last, rfl⟩
  · exact .inl rfl
  · right
    rw [List.concat_eq_append, List.flatMap_append, List.flatMap_singleton, printAnswer,
      ← List.append_assoc, List.getLast?_concat]

theorem flatMap_classify_printAnswers
    {sentinel : Text} {answers : List (List PrintedLine)} (hbreak : '\n' ∉ sentinel)
    (hreturn : sentinel.getLast? ≠ some '\r')
    (hanswers : ∀ lines ∈ answers, ∀ line ∈ lines, line.IsClear sentinel) :
    (Lines.all '\n' (answers.flatMap (printAnswer sentinel))).flatMap (Event.classify sentinel) =
      answers.flatMap fun lines => lines.map (fun line => .line line.text) ++ [.prompt] := by
  have hlast : ∀ c, sentinel.getLast? = some c → c ≠ '\r' ∧ c ≠ '\n' := by
    intro c hc
    constructor
    · rintro rfl
      exact hreturn hc
    · rintro rfl
      exact hbreak (List.mem_of_getLast? hc)
  induction answers with
  | nil => rfl
  | cons lines answers ih =>
      rw [List.forall_mem_cons] at hanswers
      rw [List.flatMap_cons, all_printAnswer hbreak hanswers.1, List.flatMap_append,
        List.flatMap_cons, PrintedLine.flatMap_classify_print hanswers.1,
        Event.classify_sentinel hlast, ih hanswers.2, List.flatMap_cons, List.append_assoc]

/-- The reader loses, invents and reorders nothing: streams are read in parts, the
end comes once and last, a line that is no text is as good as the end of the stream,
and printed answers are read line by line with a prompt behind each. -/
theorem answers_read_as_printed
    (sentinel : Text) (hbreak : '\n' ∉ sentinel) (hreturn : sentinel.getLast? ≠ some '\r') :
    (∀ front rest,
        (decodeUtf8? front).isSome = true → front.getLast? = some lineBreak →
          events sentinel (front ++ rest) =
            (events sentinel front).dropLast ++ events sentinel rest) ∧
      (∀ bytes, ∃ front, events sentinel bytes = front ++ [.closed] ∧ .closed ∉ front) ∧
      (∀ front body behind,
        front = [] ∨ front.getLast? = some lineBreak → lineBreak ∉ body →
          decodeUtf8? body = none → behind = [] ∨ behind.head? = some lineBreak →
            events sentinel (front ++ body ++ behind) = events sentinel front) ∧
      ∀ answers : List (List PrintedLine),
        (∀ lines ∈ answers, ∀ line ∈ lines, line.IsClear sentinel) →
          events sentinel (encodeUtf8 (answers.flatMap (printAnswer sentinel))) =
            answers.flatMap (fun lines => lines.map (fun line => .line line.text) ++ [.prompt]) ++
              [.closed] := by
  refine ⟨?parts, ?once, ?undecodable, ?printed⟩
  case parts =>
    intro front rest hdecode hlast
    rcases Option.isSome_iff_exists.mp hdecode with ⟨text, htext⟩
    rw [decodeUtf8?_eq_some_iff] at htext
    have hcut := cut_encodeUtf8 text
    rw [← htext, Prod.ext_iff, Lines.cut_snd_eq_nil (.inr hlast)] at hcut
    have hcut' := encodeUtf8_eq_nil_iff.mp hcut.2.symm
    rw [htext, events_encodeUtf8_append hcut', events_encodeUtf8 hcut', List.dropLast_concat]
  case once =>
    intro bytes
    rw [events_eq]
    exact exists_readToEnd sentinel _
  case undecodable =>
    intro front body behind hfront hbody hbad hbehind
    exact events_of_undecodable hfront hbody hbad hbehind sentinel
  case printed =>
    intro answers hanswers
    rw [events_encodeUtf8 (cut_printAnswers answers),
      flatMap_classify_printAnswers hbreak hreturn hanswers]

/-- An answer without lines, one with both line ends and an empty line, and a line
in between that is no text. -/
theorem both_line_ends_read :
    let sentinel := "<<ghci-debugger>>".toList
    let answers : List (List PrintedLine) := [[], [⟨"\u03C0 = 3".toList, true⟩, ⟨[], false⟩]]
    let printed := encodeUtf8 (answers.flatMap (printAnswer sentinel))
    let events := [.prompt, .line "\u03C0 = 3".toList, .line [], .prompt, .closed]
    ('\n' ∉ sentinel ∧ sentinel.getLast? ≠ some '\r') ∧
      Feed.events sentinel printed = events ∧
      Feed.events sentinel (printed ++ [0x61, 0xFF] ++ lineBreak :: printed) = events := by
  intro sentinel answers printed events
  have hbreak : '\n' ∉ sentinel := by decide
  have hreturn : sentinel.getLast? ≠ some '\r' := by decide
  have hclear : ∀ lines ∈ answers, ∀ line ∈ lines, line.IsClear sentinel := by
    intro lines hlines line hline
    have hmem : line ∈ answers.flatten := List.mem_flatten_of_mem hlines hline
    have hall : ∀ line ∈ answers.flatten, '\n' ∉ line.text ∧
        line.text.getLast? ≠ some '\r' ∧ ¬ sentinel <:+: line.text := by decide
    exact ⟨(hall line hmem).1, (hall line hmem).2.1, (hall line hmem).2.2⟩
  rcases answers_read_as_printed sentinel hbreak hreturn with ⟨-, -, hundecodable, hprinted⟩
  have hread : Feed.events sentinel printed = events := hprinted answers hclear
  refine ⟨⟨hbreak, hreturn⟩, hread, ?_⟩
  rw [← hread]
  exact hundecodable printed [0x61, 0xFF] (lineBreak :: printed) (.inr (by decide +kernel))
    (by decide) (by decide +kernel) (.inr rfl)

end Feed
end GhciBridge
