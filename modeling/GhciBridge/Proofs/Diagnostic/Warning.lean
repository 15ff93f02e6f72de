import GhciBridge.Proofs.Answer.Readings
import GhciBridge.Proofs.Diagnostic.Error

/-!
# Warnings

A warning begins with a line that tells its place, and goes on over the blank and the
indented lines behind it.  These lines are taken out, and no others.  Lines that come to
stand side by side then make up no new warning, and an answer is read as if the warnings
in front of it had not been printed.
-/

namespace GhciBridge

/-!
## Two parts of a list of lines
-/

/-- Lines parted in two, each part in its order: those whose index fulfils a condition
and the others.  The first line has the given index. -/
inductive Parted (moved : Nat → Prop) : Nat → List Text → List Text → List Text → Prop where
  | nil {i : Nat} : Parted moved i [] [] []
  | moved {i : Nat} {line : Text} {lines taken kept : List Text} (hline : moved i)
      (hrest : Parted moved (i + 1) lines taken kept) :
      Parted moved i (line :: lines) (line :: taken) kept
  | kept {i : Nat} {line : Text} {lines taken kept : List Text} (hline : ¬ moved i)
      (hrest : Parted moved (i + 1) lines taken kept) :
      Parted moved i (line :: lines) taken (line :: kept)

namespace Parted

variable {moved : Nat → Prop} {i : Nat} {lines taken kept : List Text}

theorem sublist_taken
    (h : Parted moved i lines taken kept) :
    taken.Sublist lines := by
  induction h with
  | nil => exact List.Sublist.refl []
  | moved hline hrest ih => exact ih.cons_cons _
  | kept hline hrest ih => exact ih.cons _

theorem sublist_kept
    (h : Parted moved i lines taken kept) :
    kept.Sublist lines := by
  induction h with
  | nil => exact List.Sublist.refl []
  | moved hline hrest ih => exact ih.cons _
  | kept hline hrest ih => exact ih.cons_cons _

theorem perm
    (h : Parted moved i lines taken kept) :
    (taken ++ kept).Perm lines := by
  induction h with
  | nil => exact List.Perm.refl []
  | moved hline hrest ih => exact ih.cons _
  | kept hline hrest ih => exact List.perm_middle.trans (ih.cons _)

end Parted

namespace Diagnostic

/-!
## The lines of a warning
-/

/-- A line over which a warning goes on. -/
def GoesOn (line : Text) : Prop :=
  Text.allBlank line = true ∨ Text.startsBlank line = true

/-- The line at an index begins a warning. -/
def HeadsAt (lines : List Text) (i : Nat) : Prop :=
  ∃ line, lines[i]? = some line ∧ isWarning line = true

/-- The line at an index belongs to a warning: it begins one, or a line in front of it
does and the warning goes on over all lines from there. -/
def InWarningAt (lines : List Text) (i : Nat) : Prop :=
  ∃ j ≤ i, HeadsAt lines j ∧
    ∀ k line, j < k → k ≤ i → lines[k]? = some line → GoesOn line

/-- The lines of one warning. -/
inductive IsBlock : List Text → Prop where
  | mk {header : Text} {body : List Text} (hheader : isWarning header = true)
      (hbody : ∀ line ∈ body, GoesOn line) : IsBlock (header :: body)

theorem inWarning_iff
    {before : Bool} {line : Text} :
    inWarning before line = true ↔ isWarning line = true ∨ before = true ∧ GoesOn line := by
  unfold inWarning GoesOn
  rw [Bool.or_eq_true, Bool.and_eq_true, Bool.or_eq_true, or_comm]

/-- Whether a line belongs to a warning depends on the line in front of it. -/
theorem inWarningAt_iff
    {lines : List Text} {i : Nat} {line : Text} (hline : lines[i]? = some line) :
    InWarningAt lines i ↔
      isWarning line = true ∨ (∃ p, i = p + 1 ∧ InWarningAt lines p) ∧ GoesOn line := by
  constructor
  · intro h
    rcases h with ⟨j, hj, hheads, hbetween⟩
    rcases Nat.lt_or_eq_of_le hj with hlt | hsame
    · right
      have hgoes := hbetween i line hlt (Nat.le_refl i) hline
      cases i with
      | zero => exact absurd hlt (Nat.not_lt_zero j)
      | succ p =>
          refine ⟨⟨p, rfl, j, Nat.le_of_lt_succ hlt, hheads, ?_⟩, hgoes⟩
          intro k other hjk hk hother
          exact hbetween k other hjk (Nat.le_succ_of_le hk) hother
    · left
      rcases hheads with ⟨header, hheader, hwarning⟩
      rw [hsame, hline] at hheader
      cases hheader
      exact hwarning
  · intro h
    rcases h with hwarning | ⟨⟨p, hp, j, hj, hheads, hbetween⟩, hgoes⟩
    · refine ⟨i, Nat.le_refl i, ⟨line, hline, hwarning⟩, ?_⟩
      intro k other hik hki
      exact absurd hik (Nat.not_lt_of_le hki)
    · refine ⟨j, by omega, hheads, ?_⟩
      intro k other hjk hk hother
      rcases Nat.lt_or_eq_of_le hk with hlt | hsame
      · exact hbetween k other hjk (by omega) hother
      · rw [hsame, hline] at hother
        cases hother
        exact hgoes

theorem separateFrom_cons_of_true
    {before : Bool} {line : Text} (h : inWarning before line = true) (lines : List Text) :
    separateFrom before (line :: lines) =
      (line :: (separateFrom true lines).1, (separateFrom true lines).2) := by
  rw [separateFrom, h]
  rfl

theorem separateFrom_cons_of_false
    {before : Bool} {line : Text} (h : inWarning before line = false) (lines : List Text) :
    separateFrom before (line :: lines) =
      ((separateFrom false lines).1, line :: (separateFrom false lines).2) := by
  rw [separateFrom, h]
  rfl

/-- From any line on, the lines are parted by their places among all lines. -/
theorem parted_separateFrom
    {lines rest : List Text} {i : Nat} {before : Bool} (hrest : lines.drop i = rest)
    (hbefore : before = true ↔ ∃ p, i = p + 1 ∧ InWarningAt lines p) :
    Parted (InWarningAt lines) i rest
      (separateFrom before rest).1 (separateFrom before rest).2 := by
  induction rest generalizing i before with
  | nil => exact .nil
  | cons line rest ih =>
      have hline : lines[i]? = some line := by
        rw [← List.head?_drop, hrest]
        rfl
      have hbehind : lines.drop (i + 1) = rest := by
        rw [← List.tail_drop, hrest]
        rfl
      have hnow : inWarning before line = true ↔ InWarningAt lines i := by
        rw [inWarning_iff, inWarningAt_iff hline, hbefore]
      have hnext : inWarning before line = true ↔ ∃ p, i + 1 = p + 1 ∧ InWarningAt lines p := by
        rw [hnow]
        constructor
        · intro h
          exact ⟨i, rfl, h⟩
        · intro h
          rcases h with ⟨p, hp, h⟩
          cases hp
          exact h
      have hparted := ih hbehind hnext
      cases hwarning : inWarning before line with
      | true =>
          rw [hwarning] at hparted
          rw [separateFrom_cons_of_true hwarning]
          exact .moved (hnow.mp hwarning) hparted
      | false =>
          rw [hwarning] at hparted
          rw [separateFrom_cons_of_false hwarning]
          refine .kept ?_ hparted
          intro h
          rw [hnow.mpr h] at hwarning
          cases hwarning

theorem parted_separate
    (lines : List Text) :
    Parted (InWarningAt lines) 0 lines (separate lines).1 (separate lines).2 := by
  apply parted_separateFrom rfl
  constructor
  · intro h
    cases h
  · intro h
    rcases h with ⟨p, hp, -⟩
    cases hp

/-!
## What is left
-/

/-- The first line of every warning is taken out. -/
theorem isWarning_of_mem_kept
    {before : Bool} {lines : List Text} {line : Text}
    (h : line ∈ (separateFrom before lines).2) :
    isWarning line = false := by
  induction lines generalizing before with
  | nil => cases h
  | cons first lines ih =>
      cases hwarning : inWarning before first with
      | true =>
          rw [separateFrom_cons_of_true hwarning] at h
          exact ih h
      | false =>
          rw [separateFrom_cons_of_false hwarning] at h
          rcases List.mem_cons.mp h with hfirst | hrest
          · rw [hfirst]
            cases hheader : isWarning first with
            | false => rfl
            | true =>
                rw [inWarning_iff.mpr (.inl hheader)] at hwarning
                cases hwarning
          · exact ih hrest

theorem separate_of_no_warning
    {lines : List Text} (h : ∀ line ∈ lines, isWarning line = false) :
    separate lines = ([], lines) := by
  unfold separate
  induction lines with
  | nil => rfl
  | cons line lines ih =>
      rw [List.forall_mem_cons] at h
      have hwarning : inWarning false line = false := h.1
      rw [separateFrom_cons_of_false hwarning, ih h.2]

theorem separate_withoutWarnings
    (lines : List Text) :
    separate (withoutWarnings lines) = ([], withoutWarnings lines) :=
  separate_of_no_warning fun _ hline => isWarning_of_mem_kept hline

/-!
## Warnings in front of an answer
-/

/-- Lines whose first one does not go on with a warning in front of them. -/
def BeginsAnew (lines : List Text) : Prop :=
  ∀ line, lines.head? = some line →
    Text.allBlank line = false ∧ Text.startsBlank line = false

theorem separateFrom_of_beginsAnew
    {answer : List Text} (h : BeginsAnew answer) (before : Bool) :
    separateFrom before answer = separate answer := by
  unfold separate
  cases answer with
  | nil => rfl
  | cons line lines =>
      rcases h line rfl with ⟨hblank, hstart⟩
      have hflag : inWarning before line = inWarning false line := by
        unfold inWarning
        rw [hblank, hstart, Bool.or_self, Bool.and_false, Bool.and_false]
      unfold separateFrom
      rw [hflag]

theorem separateFrom_body_append
    {body : List Text} (hbody : ∀ line ∈ body, GoesOn line) (rest : List Text) :
    separateFrom true (body ++ rest) =
      (body ++ (separateFrom true rest).1, (separateFrom true rest).2) := by
  induction body with
  | nil => rfl
  | cons line body ih =>
      rw [List.forall_mem_cons] at hbody
      have hwarning : inWarning true line = true := inWarning_iff.mpr (.inr ⟨rfl, hbody.1⟩)
      rw [List.cons_append, separateFrom_cons_of_true hwarning, ih hbody.2, List.cons_append]

theorem IsBlock.separateFrom_append
    {block : List Text} (h : IsBlock block) (before : Bool) (rest : List Text) :
    separateFrom before (block ++ rest) =
      (block ++ (separateFrom true rest).1, (separateFrom true rest).2) := by
  cases h with
  | @mk header body hheader hbody =>
      have hwarning : inWarning before header = true := inWarning_iff.mpr (.inl hheader)
      rw [List.cons_append, separateFrom_cons_of_true hwarning, separateFrom_body_append hbody,
        List.cons_append]

/-- Warnings in front of an answer are taken out and do not go on into it. -/
theorem separateFrom_flatten_append
    {blocks : List (List Text)} (hblocks : ∀ block ∈ blocks, IsBlock block)
    {answer : List Text} (hanswer : BeginsAnew answer) (before : Bool) :
    separateFrom before (blocks.flatten ++ answer) =
      (blocks.flatten ++ (separate answer).1, (separate answer).2) := by
  induction blocks generalizing before with
  | nil => exact separateFrom_of_beginsAnew hanswer before
  | cons block blocks ih =>
      rw [List.forall_mem_cons] at hblocks
      rw [List.flatten_cons, List.append_assoc, hblocks.1.separateFrom_append, ih hblocks.2,
        List.append_assoc]

theorem withoutWarnings_flatten_append
    {blocks : List (List Text)} (hblocks : ∀ block ∈ blocks, IsBlock block)
    {answer : List Text} (hanswer : BeginsAnew answer) :
    withoutWarnings (blocks.flatten ++ answer) = withoutWarnings answer := by
  unfold withoutWarnings
  rw [separate, separateFrom_flatten_append hblocks hanswer]

end Diagnostic

namespace Buffer

/-- The completion of a command: the warnings are taken out of the buffer, and the
answer is read off what is left. -/
def completion (command : Command) : Routine Answer :=
  ⟨fun lines => (answerTo command).on (Diagnostic.withoutWarnings lines)⟩

/-- A completed command has the answer that is read in its lines. -/
theorem exists_on_completion
    (command : Command) (lines : List Text) :
    ∃ rest, (completion command).on lines = some (command.complete lines, rest) := by
  have hacts := acts_answerTo command (Diagnostic.withoutWarnings lines)
  unfold completion Command.complete
  simp only
  generalize (answerTo command).on (Diagnostic.withoutWarnings lines) = result at hacts
  generalize command.read? (Diagnostic.withoutWarnings lines) = read at hacts
  cases hacts with
  | nothing => exact ⟨_, rfl⟩
  | taken answer n hle hfirst => exact ⟨_, rfl⟩

end Buffer

namespace Diagnostic

/-- A line is taken out exactly if it belongs to a warning, and nothing else happens to
the lines.  There is nothing left to take out then.  Warnings in front of an answer make
no difference to what any command makes of it. -/
theorem warnings_taken_out
    (lines : List Text) :
    (Parted (InWarningAt lines) 0 lines (separate lines).1 (separate lines).2 ∧
        (separate lines).1.Sublist lines ∧ (separate lines).2.Sublist lines ∧
        ((separate lines).1 ++ (separate lines).2).Perm lines) ∧
      separate (separate lines).2 = ([], (separate lines).2) ∧
      ∀ (blocks : List (List Text)) (answer : List Text),
        (∀ block ∈ blocks, IsBlock block) → BeginsAnew answer →
          ∀ command : Command,
            command.complete (blocks.flatten ++ answer) = command.complete answer ∧
              ∃ rest,
                (Buffer.completion command).on (blocks.flatten ++ answer) =
                    some (command.complete answer, rest) ∧
                  (Buffer.completion command).on answer =
                    some (command.complete answer, rest) := by
  have hparted := parted_separate lines
  refine ⟨⟨hparted, hparted.sublist_taken, hparted.sublist_kept, hparted.perm⟩,
    separate_withoutWarnings lines, ?_⟩
  intro blocks answer hblocks hanswer command
  have hlines := withoutWarnings_flatten_append hblocks hanswer
  have hcomplete : command.complete (blocks.flatten ++ answer) = command.complete answer := by
    unfold Command.complete
    rw [hlines]
  have hbuffer : (Buffer.completion command).on (blocks.flatten ++ answer) =
      (Buffer.completion command).on answer := by
    unfold Buffer.completion
    simp only [hlines]
  rcases Buffer.exists_on_completion command answer with ⟨rest, hrest⟩
  exact ⟨hcomplete, rest, hbuffer.trans hrest, hrest⟩

/-- Two warnings stand in front of a type, the first over an indented line and a blank
one. -/
theorem warnings_before_type_taken_out :
    let blocks := [
      ["A.hs:1:1: warning: unused".toList, "  binding".toList, []],
      ["A.hs:(2,2)-(3,4): warning:".toList]]
    let answer := ["x :: Int".toList]
    (∀ block ∈ blocks, IsBlock block) ∧ BeginsAnew answer ∧
      (Command.typeOf "x".toList).complete (blocks.flatten ++ answer) =
        some (.typed "x".toList "Int".toList) := by
  intro blocks answer
  have hblocks : ∀ block ∈ blocks, IsBlock block := by
    rw [List.forall_mem_cons, List.forall_mem_singleton]
    constructor
    · refine ⟨by decide, ?_⟩
      rw [List.forall_mem_cons, List.forall_mem_singleton]
      exact ⟨.inr (by decide), .inl (by decide)⟩
    · exact ⟨by decide, List.forall_mem_nil _⟩
  have hanswer : BeginsAnew answer := by
    intro line hline
    cases hline
    decide
  have hkept : withoutWarnings answer = answer := by decide +kernel
  have herror : anyError answer = false := by decide +kernel
  have hentry : Entry.take? (Entry.skipBlank answer) = some ("x :: Int".toList, []) := by
    decide +kernel
  have hsplit : Annotation.split? "x :: Int".toList = some ("x".toList, "Int".toList) := by
    decide +kernel
  have htyped : Answer.typed? answer = some (.typed "x".toList "Int".toList, []) := by
    rw [Answer.typed?, herror, hentry, if_neg Bool.false_ne_true, Option.bind_eq_bind,
      Option.bind_some]
    dsimp only
    rw [hsplit]
    rfl
  have hread := (warnings_taken_out answer).2.2 blocks answer hblocks hanswer
  refine ⟨hblocks, hanswer, ?_⟩
  rw [(hread (.typeOf "x".toList)).1, Command.complete, hkept, Command.read?, htyped]
  rfl

end Diagnostic
end GhciBridge
