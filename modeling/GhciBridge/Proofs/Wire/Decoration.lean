import GhciBridge.Proofs.Span.Layout
import GhciBridge.Proofs.Wire.Reader

/-!
# Decorations of a prompt

While the program is stopped ghci shows the place in square brackets in front of every
prompt, and until the sentinel is installed it prints its default prompt.  Both are
dropped from the text in front of a sentinel.  A place is told by its brackets alone:
whatever a program prints in a last pair of brackets with a space behind it is dropped
as well.
-/

namespace GhciBridge
namespace Event

/-- A text between square brackets, with a space behind them. -/
def bracketed (inside : Text) : Text :=
  '[' :: (inside ++ "] ".toList)

/-- The mark of a place in the history, in front of its brackets. -/
def dots : Text := "... ".toList

/-- A text without square brackets. -/
structure IsFlat (text : Text) : Prop where
  opening : '[' ∉ text
  closing : ']' ∉ text

/-- A text whose end is a pair of square brackets with no other bracket inside. -/
def EndsInBrackets (text : Text) : Prop :=
  ∃ front inside, IsFlat inside ∧ text = front ++ bracketed inside

/-- A text whose end shows the place of a stop. -/
def EndsInPlace (text : Text) : Prop :=
  ∃ front inside, (Span.read? inside).isSome = true ∧ text = front ++ bracketed inside

/-- A prompt like `Prelude Main> `. -/
def IsDefaultPrompt (text : Text) : Prop :=
  ∃ modules, (∀ c ∈ modules, Text.isWord c = true ∨ c = '.' ∨ c = '*' ∨ c = ' ') ∧
    text = modules ++ "> ".toList

/-- How ghci decorates a prompt with a place: where the program stopped, or where the
history stands. -/
inductive Decorates (place : Text) : Text → Prop where
  | stopped : Decorates place (bracketed place)
  | inHistory : Decorates place (dots ++ bracketed place)

/-!
## The last pair of brackets
-/

/-- A text without the dots at its end. -/
def withoutDots (text : Text) : Text :=
  ((Text.afterPrefix? dots.reverse text.reverse).getD text.reverse).reverse

theorem withoutDots_append
    (front : Text) :
    withoutDots (front ++ dots) = front := by
  unfold withoutDots
  rw [List.reverse_append, Text.afterPrefix?_append, Option.getD_some, List.reverse_reverse]

theorem withoutDots_of_not_suffix
    {text : Text} (h : ¬ dots <:+ text) :
    withoutDots text = text := by
  have hnone : Text.afterPrefix? dots.reverse text.reverse = none := by
    rw [Text.afterPrefix?_eq_none_iff, List.reverse_prefix]
    exact h
  unfold withoutDots
  rw [hnone, Option.getD_none, List.reverse_reverse]

theorem withoutDots_isPrefix
    (text : Text) :
    withoutDots text <+: text := by
  by_cases h : dots <:+ text
  · rcases h with ⟨front, rfl⟩
    rw [withoutDots_append]
    exact List.prefix_append front dots
  · rw [withoutDots_of_not_suffix h]

/-- A pair of brackets is found from its end, for no bracket stands inside of it. -/
theorem beforeContext?_reverse
    {inside : Text} (hinside : IsFlat inside) (front : Text) :
    beforeContext? (front ++ bracketed inside).reverse = some (withoutDots front).reverse := by
  have hreverse : (front ++ bracketed inside).reverse =
      [' ', ']'] ++ (inside.reverse ++ '[' :: front.reverse) := by
    simp [bracketed]
  have hsolid : ∀ c ∈ inside.reverse, (c != '[' && c != ']') = true := by
    intro c hc
    have hmem := List.mem_reverse.mp hc
    rw [Bool.and_eq_true, bne_iff_ne, bne_iff_ne]
    constructor
    · intro hopening
      exact hinside.opening (hopening ▸ hmem)
    · intro hclosing
      exact hinside.closing (hclosing ▸ hmem)
  have hstop : ∀ c, ('[' :: front.reverse).head? = some c → (c != '[' && c != ']') = false := by
    intro c hc
    cases hc
    rfl
  have hspan := Text.takeWhile_append_of_stop hsolid hstop
  unfold beforeContext?
  rw [hreverse, Text.afterPrefix?_append]
  simp only [hspan.2]
  rw [withoutDots, List.reverse_reverse]
  rfl

theorem exists_brackets_of_beforeContext?
    {text backwards : Text} (h : beforeContext? text.reverse = some backwards) :
    EndsInBrackets text := by
  unfold beforeContext? at h
  cases hclosing : Text.afterPrefix? [' ', ']'] text.reverse with
  | none =>
      rw [hclosing] at h
      cases h
  | some rest =>
      have hsplit := List.takeWhile_append_dropWhile (p := fun c => c != '[' && c != ']') (l := rest)
      have hsolid : ∀ c ∈ rest.takeWhile fun c => c != '[' && c != ']',
          (c != '[' && c != ']') = true :=
        List.all_eq_true.mp List.all_takeWhile
      rw [hclosing] at h
      simp only at h
      split at h
      · next front hopening =>
          rw [hopening] at hsplit
          refine ⟨front.reverse, (rest.takeWhile fun c => c != '[' && c != ']').reverse, ?_, ?_⟩
          · constructor
            · intro hmem
              have hbracket := hsolid '[' (List.mem_reverse.mp hmem)
              cases hbracket
            · intro hmem
              have hbracket := hsolid ']' (List.mem_reverse.mp hmem)
              cases hbracket
          · have htext := Text.afterPrefix?_eq_some_iff.mp hclosing
            rw [← hsplit] at htext
            have hreverse := congrArg List.reverse htext
            rw [List.reverse_reverse] at hreverse
            rw [hreverse]
            simp [bracketed]
      · cases h

theorem dropContext_append
    {inside : Text} (hinside : IsFlat inside) (front : Text) :
    dropContext (front ++ bracketed inside) = withoutDots front := by
  unfold dropContext
  rw [beforeContext?_reverse hinside]
  exact List.reverse_reverse _

theorem dropContext_of_not_brackets
    {text : Text} (h : ¬ EndsInBrackets text) :
    dropContext text = text := by
  unfold dropContext
  cases hcontext : beforeContext? text.reverse with
  | none => rfl
  | some backwards => exact absurd (exists_brackets_of_beforeContext? hcontext) h

theorem dropContext_eq_self_iff
    {text : Text} :
    dropContext text = text ↔ ¬ EndsInBrackets text := by
  constructor
  · intro hsame hbrackets
    rcases hbrackets with ⟨front, inside, hinside, rfl⟩
    rw [dropContext_append hinside] at hsame
    have hlength := (withoutDots_isPrefix front).length_le
    rw [hsame, List.length_append] at hlength
    have hpos : 0 < (bracketed inside).length := Nat.succ_pos _
    omega
  · exact dropContext_of_not_brackets

instance (text : Text) : Decidable (EndsInBrackets text) :=
  decidable_of_iff (¬ dropContext text = text) <| by
    rw [dropContext_eq_self_iff, not_not]

/-- The brackets of a place begin somewhere in the text. -/
theorem endsInPlace_iff
    {text : Text} :
    EndsInPlace text ↔ ∃ tail ∈ text.tails,
      (Span.read? tail.tail.dropLast.dropLast).isSome = true ∧
        tail = bracketed tail.tail.dropLast.dropLast := by
  constructor
  · intro h
    rcases h with ⟨front, inside, hread, rfl⟩
    have hinside : (bracketed inside).tail.dropLast.dropLast = inside := by simp [bracketed]
    refine ⟨bracketed inside, (List.mem_tails ..).mpr (List.suffix_append front _), ?_⟩
    rw [hinside]
    exact ⟨hread, rfl⟩
  · intro h
    rcases h with ⟨tail, hmem, hread, htail⟩
    rcases (List.mem_tails ..).mp hmem with ⟨front, rfl⟩
    exact ⟨front, _, hread, congrArg (front ++ ·) htail⟩

instance (text : Text) : Decidable (EndsInPlace text) :=
  decidable_of_iff _ endsInPlace_iff.symm

/-- Exactly the decoration is dropped, with or without dots of its own. -/
theorem dropContext_decorated
    {place decoration text : Text} (hplace : IsFlat place)
    (hdecoration : Decorates place decoration) (htext : ¬ dots <:+ text) :
    dropContext (text ++ decoration) = text := by
  cases hdecoration with
  | stopped => rw [dropContext_append hplace, withoutDots_of_not_suffix htext]
  | inHistory => rw [← List.append_assoc, dropContext_append hplace, withoutDots_append]

/-!
## Default prompts
-/

theorem isDefaultPrompt_iff
    {text : Text} :
    isDefaultPrompt text = true ↔ IsDefaultPrompt text := by
  have hmodule : ∀ c : Char,
      (Text.isWord c || c == '.' || c == '*' || c == ' ') = true ↔
        Text.isWord c = true ∨ c = '.' ∨ c = '*' ∨ c = ' ' := by
    intro c
    simp only [Bool.or_eq_true, beq_iff_eq, or_assoc]
  unfold isDefaultPrompt IsDefaultPrompt
  constructor
  · intro h
    cases hmark : Text.afterPrefix? [' ', '>'] text.reverse with
    | none =>
        rw [hmark] at h
        cases h
    | some backwards =>
        rw [hmark] at h
        refine ⟨backwards.reverse, ?_, ?_⟩
        · intro c hc
          exact (hmodule c).mp (List.all_eq_true.mp h c (List.mem_reverse.mp hc))
        · have htext := congrArg List.reverse (Text.afterPrefix?_eq_some_iff.mp hmark)
          rw [List.reverse_reverse, List.reverse_append] at htext
          exact htext
  · intro h
    rcases h with ⟨modules, hmodules, rfl⟩
    have hreverse : (modules ++ "> ".toList).reverse = [' ', '>'] ++ modules.reverse := by
      simp
    rw [hreverse, Text.afterPrefix?_append]
    apply List.all_eq_true.mpr
    intro c hc
    exact (hmodule c).mpr (hmodules c (List.mem_reverse.mp hc))

instance (text : Text) : Decidable (IsDefaultPrompt text) :=
  decidable_of_iff _ isDefaultPrompt_iff

/-!
## What is left in front of a prompt
-/

theorem beforePrompt_of_dropContext
    {text kept : Text} (hdrop : dropContext text = kept) (hblank : Text.allBlank kept = false)
    (hprompt : ¬ IsDefaultPrompt kept) :
    beforePrompt text = [kept] := by
  have hkept : undecorated text = kept := by
    unfold undecorated
    rw [hdrop]
    exact if_neg fun h => hprompt (isDefaultPrompt_iff.mp h)
  unfold beforePrompt
  simp only [hkept, hblank]
  rfl

theorem beforePrompt_of_allBlank
    {text : Text} (hblank : Text.allBlank (dropContext text) = true) :
    beforePrompt text = [] := by
  have hkept : Text.allBlank (undecorated text) = true := by
    unfold undecorated
    simp only
    split
    · rfl
    · exact hblank
  exact if_pos hkept

theorem beforePrompt_eq_self_iff
    {text : Text} (hblank : Text.allBlank text = false) :
    beforePrompt text = [text] ↔ ¬ EndsInBrackets text ∧ ¬ IsDefaultPrompt text := by
  constructor
  · intro h
    have hkept : undecorated text = text := by
      unfold beforePrompt at h
      simp only at h
      split at h
      · cases h
      · exact List.singleton_injective h
    unfold undecorated at hkept
    simp only at hkept
    split at hkept
    · rw [← hkept] at hblank
      cases hblank
    · next hprompt =>
        rw [hkept, isDefaultPrompt_iff] at hprompt
        exact ⟨dropContext_eq_self_iff.mp hkept, hprompt⟩
  · intro h
    exact beforePrompt_of_dropContext (dropContext_of_not_brackets h.1) hblank h.2

/-- The events of a line that ends in its first sentinel, with any line end. -/
theorem classify_terminated
    {sentinel before lineEnd : Text} (hmark : IsMark sentinel)
    (hfirst : ¬ sentinel <:+: before ++ sentinel.dropLast)
    (hend : ∀ c ∈ lineEnd, c = '\r' ∨ c = '\n') :
    classify sentinel (before ++ sentinel ++ lineEnd) =
      (beforePrompt before).map .line ++ [.prompt] := by
  have hlast : ∀ c, (before ++ sentinel).getLast? = some c → c ≠ '\r' ∧ c ≠ '\n' := by
    intro c hc
    rw [List.getLast?_append_of_ne_nil _ hmark.nonempty] at hc
    have hmem := List.mem_of_getLast? hc
    constructor
    · intro hreturn
      exact hmark.carriageReturn (hreturn ▸ hmem)
    · intro hbreak
      exact hmark.lineBreak (hbreak ▸ hmem)
  have hline : dropLineEnd (before ++ sentinel ++ lineEnd) = before ++ sentinel ++ [] := by
    rw [dropLineEnd_append hlast hend, List.append_nil]
  exact classify_of_first hmark.nonempty hline hfirst

/-!
## Output that is dropped
-/

/-- Output in front of a prompt is kept unless it ends in a decoration. -/
def KeepsOutput (sentinel text : Text) : Prop :=
  classify sentinel (text ++ sentinel) = [.line text, .prompt] ∨
    EndsInPlace text ∨ IsDefaultPrompt text

theorem not_isDefaultPrompt_of_endsInBrackets
    {text : Text} (h : EndsInBrackets text) :
    ¬ IsDefaultPrompt text := by
  intro hprompt
  rcases h with ⟨front, inside, -, rfl⟩
  rcases hprompt with ⟨modules, -, hsame⟩
  have hreverse := congrArg List.reverse hsame
  simp [bracketed] at hreverse

/-- The text in front of a prompt is kept as it is exactly if it neither ends in a pair
of brackets nor is a default prompt.  So only decorations are dropped exactly if no pair
of brackets at the end holds anything but a place; of such a text the brackets are cut
off, and the front is kept. -/
theorem output_kept_iff
    {sentinel text : Text} (hmark : IsMark sentinel)
    (hfirst : ¬ sentinel <:+: text ++ sentinel.dropLast) (hblank : Text.allBlank text = false) :
    (classify sentinel (text ++ sentinel) = [.line text, .prompt] ↔
        ¬ EndsInBrackets text ∧ ¬ IsDefaultPrompt text) ∧
      (KeepsOutput sentinel text ↔ (EndsInBrackets text → EndsInPlace text)) ∧
      ∀ front inside, IsFlat inside → text = front ++ bracketed inside →
        ¬ dots <:+ front → ¬ IsDefaultPrompt front →
          classify sentinel (text ++ sentinel) =
            if Text.allBlank front then [.prompt] else [.line front, .prompt] := by
  have hclassify : classify sentinel (text ++ sentinel) =
      (beforePrompt text).map .line ++ [.prompt] := by
    have hterminated := classify_terminated hmark hfirst (List.forall_mem_nil _)
    rw [List.append_nil] at hterminated
    exact hterminated
  have hkept : classify sentinel (text ++ sentinel) = [.line text, .prompt] ↔
      ¬ EndsInBrackets text ∧ ¬ IsDefaultPrompt text := by
    rw [hclassify, ← beforePrompt_eq_self_iff hblank]
    constructor
    · intro h
      have hlines : (beforePrompt text).map Event.line = [text].map Event.line :=
        List.append_cancel_right h
      exact List.map_injective_iff.mpr (fun _ _ hsame => Event.line.inj hsame) hlines
    · intro h
      rw [h]
      rfl
  refine ⟨hkept, ?_, ?_⟩
  · unfold KeepsOutput
    rw [hkept]
    constructor
    · intro hlaw hbrackets
      rcases hlaw with hsame | hplace | hprompt
      · exact absurd hbrackets hsame.1
      · exact hplace
      · exact absurd hprompt (not_isDefaultPrompt_of_endsInBrackets hbrackets)
    · intro hplaces
      by_cases hbrackets : EndsInBrackets text
      · exact .inr (.inl (hplaces hbrackets))
      · by_cases hprompt : IsDefaultPrompt text
        · exact .inr (.inr hprompt)
        · exact .inl ⟨hbrackets, hprompt⟩
  · intro front inside hinside htext hdots hprompt
    have hdrop : dropContext text = front := by
      rw [htext, dropContext_append hinside, withoutDots_of_not_suffix hdots]
    rw [hclassify]
    cases hfront : Text.allBlank front with
    | true =>
        rw [beforePrompt_of_allBlank (hdrop.symm ▸ hfront)]
        rfl
    | false =>
        rw [beforePrompt_of_dropContext hdrop hfront hprompt]
        rfl

/-- Of two printed lists the one that holds brackets of its own is kept. -/
theorem nested_list_kept :
    let sentinel := "<<ghci-debugger>>".toList
    classify sentinel ("[[1],[2]] ".toList ++ sentinel) =
        [.line "[[1],[2]] ".toList, .prompt] ∧
      KeepsOutput sentinel "[[1],[2]] ".toList := by
  intro sentinel
  have hmark : IsMark sentinel := ⟨by decide, by decide, by decide⟩
  have hfirst : ¬ sentinel <:+: "[[1],[2]] ".toList ++ sentinel.dropLast := by decide
  have hbrackets : ¬ EndsInBrackets "[[1],[2]] ".toList := by decide
  rcases output_kept_iff hmark hfirst (by decide) with ⟨hkept, hlaw, -⟩
  constructor
  · exact hkept.mpr ⟨hbrackets, by decide⟩
  · exact hlaw.mpr fun h => absurd h hbrackets

/-- A question loses the answers it offers. -/
theorem offered_answers_dropped :
    let sentinel := "<<ghci-debugger>>".toList
    let text := "Continue? [y/n] ".toList
    IsMark sentinel ∧ ¬ sentinel <:+: text ++ sentinel.dropLast ∧ Text.allBlank text = false ∧
      classify sentinel (text ++ sentinel) = [.line "Continue? ".toList, .prompt] ∧
      ¬ KeepsOutput sentinel text := by
  intro sentinel text
  have hkept : classify sentinel (text ++ sentinel) = [.line "Continue? ".toList, .prompt] := by
    decide +kernel
  have hplace : ¬ EndsInPlace text := by decide +kernel
  have hprompt : ¬ IsDefaultPrompt text := by decide
  refine ⟨⟨by decide, by decide, by decide⟩, by decide, by decide, hkept, ?_⟩
  intro hlaw
  rcases hlaw with hsame | hends | hdefault
  · exact absurd (hkept.symm.trans hsame) (by decide)
  · exact hplace hends
  · exact hprompt hdefault

/-!
## Places that are dropped
-/

/-- A number is made of digits, with a minus sign at most. -/
theorem isFlat_number
    (n : Int32) :
    IsFlat (Span.number n) := by
  have hdigits : ∀ k : Nat, IsFlat (Text.ofNat k) := by
    intro k
    have hdigit : ∀ c ∈ Text.ofNat k, c.isDigit = true := by
      intro c hc
      exact Nat.isDigit_of_mem_toDigits (by decide) (by decide) hc
    constructor
    · intro hmem
      have hbracket := hdigit '[' hmem
      cases hbracket
    · intro hmem
      have hbracket := hdigit ']' hmem
      cases hbracket
  unfold Span.number Text.ofInt
  cases n.toInt with
  | ofNat k => exact hdigits k
  | negSucc k =>
      constructor
      · simp [(hdigits (k + 1)).opening]
      · simp [(hdigits (k + 1)).closing]

theorem isFlat_render
    {place : Span} (hpath : IsFlat place.path) :
    IsFlat place.render := by
  have hopening : ∀ n, '[' ∉ Span.number n := fun n => (isFlat_number n).opening
  have hclosing : ∀ n, ']' ∉ Span.number n := fun n => (isFlat_number n).closing
  unfold Span.render
  split
  · split
    · constructor
      · simp [hpath.opening, hopening]
      · simp [hpath.closing, hclosing]
    · constructor
      · simp [hpath.opening, hopening]
      · simp [hpath.closing, hclosing]
  · constructor
    · simp [hpath.opening, hopening]
    · simp [hpath.closing, hclosing]

/-- The place of a stop never gets into an answer, in whatever layout it is shown: what
stands in front of it is kept as it is, also if that ends in another pair of brackets,
and nothing is kept if that is blank. -/
theorem shown_place_dropped
    {sentinel text decoration lineEnd : Text} {place : Span} (hmark : IsMark sentinel)
    (hpath : IsFlat place.path) (hdecoration : Decorates place.render decoration)
    (hfirst : ¬ sentinel <:+: text ++ decoration ++ sentinel.dropLast)
    (hend : ∀ c ∈ lineEnd, c = '\r' ∨ c = '\n') :
    (Text.allBlank text = true →
        classify sentinel (text ++ decoration ++ sentinel ++ lineEnd) = [.prompt]) ∧
      (Text.allBlank text = false → ¬ IsDefaultPrompt text → ¬ dots <:+ text →
        classify sentinel (text ++ decoration ++ sentinel ++ lineEnd) =
          [.line text, .prompt]) := by
  have hplace := isFlat_render hpath
  have hclassify := classify_terminated hmark hfirst hend
  constructor
  · intro hblank
    have hdots : ¬ dots <:+ text := by
      intro hsuffix
      have hdot := List.all_eq_true.mp hblank '.' (hsuffix.subset (by decide))
      cases hdot
    have hdrop := dropContext_decorated hplace hdecoration hdots
    rw [hclassify, beforePrompt_of_allBlank (hdrop.symm ▸ hblank)]
    rfl
  · intro hblank hprompt hdots
    have hdrop := dropContext_decorated hplace hdecoration hdots
    rw [hclassify, beforePrompt_of_dropContext hdrop hblank hprompt]
    rfl

/-- The text ends in brackets of its own, and with dots that have no space behind them. -/
theorem place_behind_brackets_dropped :
    let sentinel := "<<ghci-debugger>>".toList
    let place : Span := ⟨"my dir/B.hs".toList, 3, 1, 4, 20⟩
    let text := "[A.hs:1:1] ...".toList
    classify sentinel (text ++ (dots ++ bracketed place.render) ++ sentinel ++ "\r\n\r".toList) =
        [.line text, .prompt] ∧
      classify sentinel ("  ".toList ++ bracketed place.render ++ sentinel ++ []) = [.prompt] := by
  intro sentinel place text
  have hmark : IsMark sentinel := ⟨by decide, by decide, by decide⟩
  have hpath : IsFlat place.path := ⟨by decide, by decide⟩
  have hprompt : ¬ IsDefaultPrompt text := by decide
  have hfirst : ¬ sentinel <:+: text ++ (dots ++ bracketed place.render) ++ sentinel.dropLast := by
    decide +kernel
  have hblanks : ¬ sentinel <:+: "  ".toList ++ bracketed place.render ++ sentinel.dropLast := by
    decide +kernel
  have hend : ∀ c ∈ "\r\n\r".toList, c = '\r' ∨ c = '\n' := by simp
  have hkept := (shown_place_dropped hmark hpath .inHistory hfirst hend).2
  have hdropped := (shown_place_dropped hmark hpath .stopped hblanks (List.forall_mem_nil _)).1
  constructor
  · exact hkept (by decide) hprompt (by decide)
  · exact hdropped (by decide)

end Event
end GhciBridge
