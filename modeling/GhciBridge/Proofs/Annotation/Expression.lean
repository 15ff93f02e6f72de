import GhciBridge.Proofs.Annotation.Balance
import Mathlib.Data.Bool.AllAny

/-!
# Splitting behind an expression

An expression is made of characters, bracket groups and literals, in any nesting.
The scan goes through a group and through a string without stopping, and is where it
was before.  What is left to look for a separator in is the outline of the expression:
its text without what is inside of its groups and literals.
-/

namespace GhciBridge
namespace Annotation

/-!
## Expressions
-/

/-- The brackets that make up a group. -/
def brackets : List (Char × Char) :=
  openings.zip closings

/-- A text built from characters, groups and literals, with its outline and all its
literals.  In the outline an empty pair of brackets stands for a group and a quote for
a literal. -/
inductive Expression : (text outline : Text) → (literals : List Text) → Prop where
  | nil : Expression [] [] []
  | plain {c : Char} {text outline : Text} {literals : List Text} (hc : c ∉ delimiters)
      (hrest : Expression text outline literals) :
      Expression (c :: text) (c :: outline) literals
  | group {opening closing : Char} {inside shape text outline : Text}
      {inner literals : List Text} (hpair : (opening, closing) ∈ brackets)
      (hinside : Expression inside shape inner) (hrest : Expression text outline literals) :
      Expression (opening :: (inside ++ closing :: text)) (opening :: closing :: outline)
        (inner ++ literals)
  | literal (literal : Text) {text outline : Text} {literals : List Text}
      (hrest : Expression text outline literals) :
      Expression (literal ++ text) ('"' :: outline) (literal :: literals)

/-- What stands between the quotes of a string: each backslash with the character behind
it, and any other character but a quote. -/
inductive StringBody : Text → Prop where
  | nil : StringBody []
  | plain {c : Char} {text : Text} (hbackslash : c ≠ '\\') (hquote : c ≠ '"')
      (hrest : StringBody text) : StringBody (c :: text)
  | escaped (c : Char) {text : Text} (hrest : StringBody text) : StringBody ('\\' :: c :: text)

/-- A complete string literal. -/
def IsString (literal : Text) : Prop :=
  ∃ body, StringBody body ∧ literal = '"' :: (body ++ ['"'])

theorem StringBody.append_plain
    {front text : Text} (hfront : ∀ c ∈ front, c ≠ '\\' ∧ c ≠ '"') (h : StringBody text) :
    StringBody (front ++ text) := by
  induction front with
  | nil => exact h
  | cons c front ih =>
      rw [List.forall_mem_cons] at hfront
      exact .plain hfront.1.1 hfront.1.2 (ih hfront.2)

/-!
## Texts that the scan goes through
-/

/-- From the first nesting the scan goes through a text, whatever is behind it, and
reaches the second one. -/
def Passes (n : Nesting) (text : Text) (m : Nesting) : Prop :=
  ∀ rest, splitFrom? n (text ++ rest) =
    (splitFrom? m rest).map fun cut => (text ++ cut.1, cut.2)

namespace Passes

theorem nil
    (n : Nesting) :
    Passes n [] n := by
  intro rest
  exact Option.map_id'.symm

theorem cons
    {n m : Nesting} {c : Char} {text : Text} (hcut : ∀ rest, ¬ IsCut n (c :: (text ++ rest)) [])
    (h : Passes (n.step c) text m) :
    Passes n (c :: text) m := by
  intro rest
  rw [List.cons_append, splitFrom?_of_not_isCut_nil (hcut rest), h rest, Option.map_map]
  rfl

theorem append
    {n k m : Nesting} {front text : Text} (hfront : Passes n front k) (h : Passes k text m) :
    Passes n (front ++ text) m := by
  intro rest
  rw [List.append_assoc, hfront, h, Option.map_map]
  congr 1
  funext cut
  exact congrArg (·, cut.2) (List.append_assoc front text cut.1).symm

end Passes

theorem not_isCut_of_not_outside
    {n : Nesting} (h : n.isOutside = false) (text : Text) :
    ¬ IsCut n text [] := by
  intro hcut
  have houtside : n.isOutside = true := hcut.outside
  rw [h] at houtside
  cases houtside

theorem not_isCut_of_ne_space
    {c : Char} (hc : c ≠ ' ') (n : Nesting) (text : Text) :
    ¬ IsCut n (c :: text) [] := by
  intro hcut
  exact hc (List.cons_prefix_cons.mp hcut.followed).1.symm

theorem ne_space_of_mem_delimiters
    {c : Char} (hc : c ∈ delimiters) :
    c ≠ ' ' := by
  intro hspace
  rw [hspace] at hc
  exact absurd hc (by decide)

theorem StringBody.passes
    {body : Text} (h : StringBody body) (depth : Int) :
    Passes (nestingAt depth true) body (nestingAt depth true) := by
  have hinside : (nestingAt depth true).isOutside = false := Bool.and_false _
  have hescape : ((nestingAt depth true).step '\\').isOutside = false := Bool.and_false _
  induction h with
  | nil => exact Passes.nil _
  | @plain c text hbackslash hquote hrest ih =>
      apply Passes.cons (fun rest => not_isCut_of_not_outside hinside _)
      rw [step_string depth hbackslash, bne_iff_ne.mpr hquote]
      exact ih
  | escaped c hrest ih =>
      apply Passes.cons (fun rest => not_isCut_of_not_outside hinside _)
      exact Passes.cons (fun rest => not_isCut_of_not_outside hescape _) ih

/-- A literal that begins with a quote of either kind and leaves the nesting as it is. -/
structure IsPassed (literal : Text) : Prop where
  quote : ∃ mark rest, literal = mark :: rest ∧ (mark = '"' ∨ mark = '\'')
  passes : ∀ depth, Passes (nestingAt depth false) literal (nestingAt depth false)

theorem IsString.isPassed
    {literal : Text} (h : IsString literal) :
    IsPassed literal := by
  rcases h with ⟨body, hbody, hliteral⟩
  constructor
  · exact ⟨'"', body ++ ['"'], hliteral, .inl rfl⟩
  · intro depth
    have hquote : Passes (nestingAt depth true) ['"'] (nestingAt depth false) :=
      Passes.cons (fun rest => not_isCut_of_ne_space (by decide) _ _) (Passes.nil _)
    rw [hliteral]
    exact Passes.cons (fun rest => not_isCut_of_ne_space (by decide) _ _)
      ((hbody.passes depth).append hquote)

theorem step_plain
    (depth : Int) {c : Char} (hc : c ∉ delimiters) :
    (nestingAt depth false).step c = nestingAt depth false := by
  have hquote : c ≠ '"' := by
    intro h
    rw [h] at hc
    exact absurd hc (by decide)
  have hopening : c ∉ openings := fun h =>
    hc ((by decide : openings ⊆ delimiters) h)
  have hclosing : c ∉ closings := fun h =>
    hc ((by decide : closings ⊆ delimiters) h)
  rw [step_code depth hquote, weight, if_neg hopening, if_neg hclosing, Int.add_zero]

/-- Brackets of one pair are delimiters, and their weights cancel. -/
theorem step_bracket
    {opening closing : Char} (hpair : (opening, closing) ∈ brackets) (depth : Int) :
    opening ∈ delimiters ∧ closing ∈ delimiters ∧
      (nestingAt depth false).step opening = nestingAt (depth + 1) false ∧
      (nestingAt (depth + 1) false).step closing = nestingAt depth false := by
  have hall : brackets.all (fun pair => pair.1 ∈ delimiters ∧ pair.2 ∈ delimiters ∧
      pair.1 ≠ '"' ∧ pair.2 ≠ '"' ∧ weight pair.1 = 1 ∧ weight pair.2 = -1) = true := by
    decide
  have hfacts := of_decide_eq_true (List.all_eq_true.mp hall _ hpair)
  rcases hfacts with ⟨hopening, hclosing, hopen, hclose, hup, hdown⟩
  refine ⟨hopening, hclosing, ?_, ?_⟩
  · rw [step_code depth hopen, hup]
  · rw [step_code (depth + 1) hclose, hdown, Int.add_neg_cancel_right]

namespace Expression

variable {text outline : Text} {literals : List Text}

/-- Inside of brackets the scan goes through every expression: its own groups only take
it deeper. -/
theorem passes
    (h : Expression text outline literals) (hpassed : ∀ l ∈ literals, IsPassed l)
    {depth : Int} (hdepth : 0 < depth) :
    Passes (nestingAt depth false) text (nestingAt depth false) := by
  have hinside : ∀ {d : Int}, 0 < d → (nestingAt d false).isOutside = false := by
    intro d hd
    have hne : (d == 0) = false := beq_eq_false_iff_ne.mpr (by omega)
    exact congrArg (· && true) hne
  induction h generalizing depth with
  | nil => exact Passes.nil _
  | plain hc hrest ih =>
      apply Passes.cons (fun rest => not_isCut_of_not_outside (hinside hdepth) _)
      rw [step_plain depth hc]
      exact ih hpassed hdepth
  | group hpair hinner hrest ihinner ihrest =>
      rw [List.forall_mem_append] at hpassed
      have hdeeper : 0 < depth + 1 := by omega
      rcases step_bracket hpair depth with ⟨-, -, hopen, hclose⟩
      apply Passes.cons (fun rest => not_isCut_of_not_outside (hinside hdepth) _)
      rw [hopen]
      apply (ihinner hpassed.1 hdeeper).append
      apply Passes.cons (fun rest => not_isCut_of_not_outside (hinside hdeeper) _)
      rw [hclose]
      exact ihrest hpassed.2 hdepth
  | literal literal hrest ih =>
      rw [List.forall_mem_cons] at hpassed
      exact (hpassed.1.passes depth).append (ih hpassed.2 hdepth)

/-!
## The outline
-/

/-- A text without delimiters and quotes begins an expression only if it begins the
outline. -/
theorem isPrefix_outline
    (h : Expression text outline literals) (hpassed : ∀ l ∈ literals, IsPassed l)
    {word : Text} (hword : ∀ c ∈ word, c ∉ delimiters ∧ c ≠ '\'') (rest : Text)
    (hfront : word <+: text ++ rest) :
    word <+: outline ++ rest := by
  induction h generalizing word with
  | nil => exact hfront
  | plain hc hrest ih =>
      cases word with
      | nil => exact List.nil_prefix
      | cons d word =>
          rw [List.forall_mem_cons] at hword
          rw [List.cons_append, List.cons_prefix_cons] at hfront
          exact List.cons_prefix_cons.mpr ⟨hfront.1, ih hpassed hword.2 hfront.2⟩
  | group hpair hinner hrest _ _ =>
      cases word with
      | nil => exact List.nil_prefix
      | cons d word =>
          have hd := (hword d List.mem_cons_self).1
          rw [(List.cons_prefix_cons.mp hfront).1] at hd
          exact absurd (step_bracket hpair 0).1 hd
  | literal literal hrest _ =>
      cases word with
      | nil => exact List.nil_prefix
      | cons d word =>
          rcases (hpassed literal List.mem_cons_self).quote with ⟨mark, more, hliteral, hmark⟩
          have hd := hword d List.mem_cons_self
          rw [hliteral] at hfront
          rw [(List.cons_prefix_cons.mp hfront).1] at hd
          rcases hmark with hmark | hmark
          · rw [hmark] at hd
            exact absurd (by decide) hd.1
          · exact absurd hmark hd.2

theorem eq_outline
    (h : Expression text outline literals) (hplain : ∀ c ∈ outline, c ∉ delimiters) :
    text = outline := by
  induction h with
  | nil => rfl
  | plain hc hrest ih => rw [ih (List.forall_mem_cons.mp hplain).2]
  | group hpair hinner hrest _ _ =>
      exact absurd (step_bracket hpair 0).1 (hplain _ List.mem_cons_self)
  | literal literal hrest _ => exact absurd (by decide) (hplain _ List.mem_cons_self)

/-- A text without delimiters that ends the outline ends the expression. -/
theorem isSuffix_of_outline
    (h : Expression text outline literals) {word : Text} (hword : ∀ c ∈ word, c ∉ delimiters)
    (hend : word <:+ outline) :
    word <:+ text := by
  induction h with
  | nil => exact hend
  | @plain c text outline literals hc hrest ih =>
      rcases List.suffix_cons_iff.mp hend with hsame | hend
      · rw [hsame, List.forall_mem_cons] at hword
        rw [hsame, hrest.eq_outline hword.2]
      · exact (ih hend).trans (List.suffix_cons c text)
  | @group opening closing inside _ text _ _ _ hpair hinner hrest _ ih =>
      rcases step_bracket hpair 0 with ⟨hopening, hclosing, -⟩
      rcases List.suffix_cons_iff.mp hend with hsame | hend
      · exact absurd hopening (hword _ (hsame ▸ List.mem_cons_self))
      · rcases List.suffix_cons_iff.mp hend with hsame | hend
        · exact absurd hclosing (hword _ (hsame ▸ List.mem_cons_self))
        · have hbehind := (ih hend).trans (List.suffix_cons closing text)
          have hgroup := hbehind.trans (List.suffix_append inside _)
          exact hgroup.trans (List.suffix_cons opening _)
  | literal literal hrest ih =>
      rcases List.suffix_cons_iff.mp hend with hsame | hend
      · exact absurd (by decide) (hword _ (hsame ▸ List.mem_cons_self))
      · exact (ih hend).trans (List.suffix_append _ _)

/-- An expression is split where its outline is broken. -/
theorem splitFrom?_append
    (h : Expression text outline literals) (hpassed : ∀ l ∈ literals, IsPassed l)
    {rest type : Text}
    (hbreak : Text.breakOn? separator (outline ++ rest) = some (outline, type)) :
    splitFrom? (nestingAt 0 false) (text ++ rest) = some (text, type) := by
  have hseparator : ∀ c ∈ separator, c ∉ delimiters ∧ c ≠ '\'' :=
    List.all_iff_forall_prop.mp (by decide)
  induction h with
  | nil =>
      rw [List.nil_append] at hbreak ⊢
      rw [Text.eq_append_of_breakOn? hbreak]
      exact split?_separator type
  | @plain c text outline literals hc hrest ih =>
      rcases Text.breakOn?_of_cons hbreak with ⟨hhead, hbreak⟩
      have hnot : ¬ IsCut (nestingAt 0 false) (c :: (text ++ rest)) [] := fun hcut =>
        hhead ((hrest.plain hc).isPrefix_outline hpassed hseparator rest hcut.followed)
      rw [List.cons_append, splitFrom?_of_not_isCut_nil hnot, step_plain 0 hc,
        ih hpassed hbreak]
      rfl
  | @group opening closing inside _ text _ _ _ hpair hinner hrest _ ih =>
      rw [List.forall_mem_append] at hpassed
      rcases step_bracket hpair 0 with ⟨hopening, hclosing, hopen, hclose⟩
      have hbehind := ih hpassed.2 (Text.breakOn?_of_cons (Text.breakOn?_of_cons hbreak).2).2
      have hfront : Passes (nestingAt 0 false) [opening] (nestingAt (0 + 1) false) := by
        rw [← hopen]
        exact Passes.cons
          (fun rest => not_isCut_of_ne_space (ne_space_of_mem_delimiters hopening) _ _)
          (Passes.nil _)
      have hback : Passes (nestingAt (0 + 1) false) [closing] (nestingAt 0 false) := by
        rw [← hclose]
        exact Passes.cons
          (fun rest => not_isCut_of_ne_space (ne_space_of_mem_delimiters hclosing) _ _)
          (Passes.nil _)
      have hgroup := hfront.append ((hinner.passes hpassed.1 (by decide)).append hback)
      have hsplit := hgroup (text ++ rest)
      rw [hbehind] at hsplit
      simpa using hsplit
  | literal literal hrest ih =>
      rw [List.forall_mem_cons] at hpassed
      have hbehind := ih hpassed.2 (Text.breakOn?_of_cons hbreak).2
      rw [List.append_assoc, hpassed.1.passes 0, hbehind]
      rfl

/-- Behind an expression without a separator of its own, and that is not about to end in
one, the next separator is the first. -/
theorem split?_separator_append
    (h : Expression text outline literals) (hpassed : ∀ l ∈ literals, IsPassed l)
    (hinside : ¬ separator <:+: outline) (hend : ¬ " ::".toList <:+ text) (type : Text) :
    split? (text ++ separator ++ type) = some (text, type) := by
  have hcolons : ∀ c ∈ " ::".toList, c ∉ delimiters :=
    List.all_iff_forall_prop.mp (by decide)
  have hmark : ¬ ' ' :: ("::".toList ++ [' ']) <:+: outline := hinside
  have houtline : ¬ ' ' :: "::".toList <:+ outline := fun hsuffix =>
    hend (h.isSuffix_of_outline hcolons hsuffix)
  have hbreak := Text.breakOn?_between_spaces (by decide) hmark houtline type
  rw [List.append_assoc] at hbreak ⊢
  exact h.splitFrom?_append hpassed hbreak

theorem append_plain
    {front : Text} (hfront : ∀ c ∈ front, c ∉ delimiters)
    (h : Expression text outline literals) :
    Expression (front ++ text) (front ++ outline) literals := by
  induction front with
  | nil => exact h
  | cons c front ih =>
      rw [List.forall_mem_cons] at hfront
      exact .plain hfront.1 (ih hfront.2)

end Expression

/-- A text is split in front of the first separator at nesting level zero, and only there.
So an expression without such a separator, and that is not about to end in one, is set
apart from its type.  The depth of the scan fits a signed word of 32 bits as long as the
text has less than two to the power of 31 characters. -/
theorem split_at_first_level_separator
    (text : Text) :
    (∀ expression type, split? text = some (expression, type) ↔
      text = expression ++ separator ++ type ∧ IsLevel expression ∧
        ∀ front, front ++ separator <+: text → front.length < expression.length →
          ¬ IsLevel front) ∧
    (split? text = none ↔ ∀ front, front ++ separator <+: text → ¬ IsLevel front) ∧
    (∀ outline literals, Expression text outline literals → (∀ l ∈ literals, IsString l) →
      ¬ separator <:+: outline → ¬ " ::".toList <:+ text →
      ∀ type, split? (text ++ separator ++ type) = some (text, type)) ∧
    (text.length < Nat.pow 2 31 → ∀ front, front <+: text →
      (Int32.ofInt (Nesting.start.after front).depth).toInt =
        (Nesting.start.after front).depth) := by
  constructor
  · intro expression type
    exact split?_eq_some_iff
  constructor
  · exact split?_eq_none_iff
  constructor
  · intro outline literals hexpression hstrings hinside hend type
    have hpassed := fun l hl => (hstrings l hl).isPassed
    exact hexpression.split?_separator_append hpassed hinside hend type
  · intro hlength front hfront
    have hle := hfront.length_le
    exact toInt_ofInt_depth (by omega)

/-- Separators in brackets and in a string, one of whose quotes is escaped, are passed
over. -/
theorem nested_separators_passed_over :
    let text := "f (x :: Int) \") :: \\\" :: \"".toList
    let string := "\") :: \\\" :: \"".toList
    Expression text "f () \"".toList [string] ∧ IsString string ∧
      ¬ separator <:+: "f () \"".toList ∧ ¬ " ::".toList <:+ text ∧
      split? (text ++ separator ++ "IO ()".toList) = some (text, "IO ()".toList) := by
  intro text string
  have hexpression : Expression text "f () \"".toList [string] := by
    have hinner : Expression ("x :: Int".toList ++ []) ("x :: Int".toList ++ []) [] :=
      Expression.nil.append_plain (List.all_iff_forall_prop.mp (by decide))
    have hstring : Expression (string ++ []) ['"'] [string] := .literal string .nil
    have hbehind : Expression (' ' :: string) " \"".toList [string] := .plain (by decide) hstring
    have hgroup : Expression ('(' :: ("x :: Int".toList ++ ')' :: ' ' :: string))
        "() \"".toList [string] := .group (by decide) hinner hbehind
    have hname : ∀ c ∈ "f ".toList, c ∉ delimiters := List.all_iff_forall_prop.mp (by decide)
    exact hgroup.append_plain hname
  have hstring : IsString string := by
    have hlast : StringBody (" :: ".toList ++ []) :=
      .append_plain (List.all_iff_forall_prop.mp (by decide)) .nil
    have hbody : StringBody (") :: ".toList ++ '\\' :: '"' :: " :: ".toList) :=
      .append_plain (List.all_iff_forall_prop.mp (by decide)) (.escaped '"' hlast)
    exact ⟨_, hbody, rfl⟩
  have hinside : ¬ separator <:+: "f () \"".toList := by decide
  have hend : ¬ " ::".toList <:+ text := by decide
  refine ⟨hexpression, hstring, hinside, hend, ?_⟩
  have hstrings : ∀ l ∈ [string], IsString l := List.forall_mem_singleton.mpr hstring
  exact (split_at_first_level_separator text).2.2.1 _ _ hexpression hstrings hinside hend _

end Annotation
end GhciBridge
