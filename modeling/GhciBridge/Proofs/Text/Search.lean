import GhciBridge.Text.Basic
import Mathlib.Data.List.Infix

/-!
# Searching a text for a mark

`breakOn?` finds the first occurrence of a mark.  It fails exactly on the texts
that do not hold the mark, and the part in front of the mark is the only one
behind which the mark stands for the first time.
-/

namespace GhciBridge
namespace Text

theorem afterPrefix?_eq_none_iff
    {head text : Text} :
    afterPrefix? head text = none ↔ ¬ head <+: text := by
  rw [← not_iff_not, not_not, ← ne_eq, Option.ne_none_iff_exists']
  constructor
  · rintro ⟨rest, hrest⟩
    exact ⟨rest, (afterPrefix?_eq_some_iff.mp hrest).symm⟩
  · rintro ⟨rest, hrest⟩
    exact ⟨rest, afterPrefix?_eq_some_iff.mpr hrest.symm⟩

theorem breakOn?_eq_none_iff
    {mark text : Text} :
    breakOn? mark text = none ↔ ¬ mark <:+: text := by
  induction text with
  | nil =>
      rw [breakOn?, Option.map_eq_none_iff, afterPrefix?_eq_none_iff,
        List.prefix_nil, List.infix_nil]
  | cons c text ih =>
      rw [List.infix_cons_iff, not_or, ← ih, ← afterPrefix?_eq_none_iff, breakOn?]
      cases h : afterPrefix? mark (c :: text) with
      | none => simp
      | some rest => simp

private theorem prefix_of_first
    {mark before after : Text} (hmark : mark ≠ []) {c : Char}
    (h : mark <+: c :: (before ++ mark ++ after)) :
    mark <+: c :: (before ++ mark.dropLast) := by
  have hpos : 0 < mark.length := List.length_pos_iff.mpr hmark
  apply List.prefix_of_prefix_length_le h
  · have hdrop : mark.dropLast <+: mark ++ after :=
      (List.dropLast_prefix mark).trans (List.prefix_append mark after)
    rw [List.append_assoc]
    exact List.cons_prefix_cons.mpr ⟨rfl, (List.prefix_append_right_inj before).mpr hdrop⟩
  · simp only [List.length_cons, List.length_append, List.length_dropLast]
    omega

/-- In front of the first occurrence there is no other one, not even one that
overlaps it. -/
theorem not_infix_of_breakOn?
    {mark text before after : Text} (hmark : mark ≠ [])
    (h : breakOn? mark text = some (before, after)) :
    ¬ mark <:+: before ++ mark.dropLast := by
  induction text generalizing before with
  | nil =>
      rw [breakOn?, Option.map_eq_some_iff] at h
      rcases h with ⟨rest, hrest, _⟩
      have hnil := (List.append_eq_nil_iff.mp (afterPrefix?_eq_some_iff.mp hrest).symm).1
      exact absurd hnil hmark
  | cons c text ih =>
      rw [breakOn?] at h
      cases hhead : afterPrefix? mark (c :: text) with
      | some rest =>
          rw [hhead] at h
          cases h
          intro hheld
          have hlength := hheld.length_le
          have hpos : 0 < mark.length := List.length_pos_iff.mpr hmark
          simp only [List.nil_append, List.length_dropLast] at hlength
          omega
      | none =>
          rw [hhead] at h
          rcases Option.map_eq_some_iff.mp h with ⟨⟨b, a⟩, hcut, hpair⟩
          cases hpair
          have htext := eq_append_of_breakOn? hcut
          rw [List.cons_append, List.infix_cons_iff, not_or]
          refine ⟨?_, ih hcut⟩
          intro hfront
          apply afterPrefix?_eq_none_iff.mp hhead
          apply hfront.trans
          rw [htext, List.append_assoc]
          apply List.cons_prefix_cons.mpr
          refine ⟨rfl, (List.prefix_append_right_inj b).mpr ?_⟩
          exact (List.dropLast_prefix mark).trans (List.prefix_append mark a)

theorem breakOn?_append
    {mark before : Text} (after : Text) (hmark : mark ≠ [])
    (hfirst : ¬ mark <:+: before ++ mark.dropLast) :
    breakOn? mark (before ++ mark ++ after) = some (before, after) := by
  induction before with
  | nil =>
      cases mark with
      | nil => exact absurd rfl hmark
      | cons m mark =>
          have hhead := afterPrefix?_append (m :: mark) after
          rw [List.cons_append] at hhead
          rw [List.nil_append, List.cons_append, breakOn?, hhead]
  | cons c before ih =>
      rw [List.cons_append, List.infix_cons_iff, not_or] at hfirst
      have hhead : afterPrefix? mark (c :: (before ++ mark ++ after)) = none := by
        rw [afterPrefix?_eq_none_iff]
        exact fun h => hfirst.1 (prefix_of_first hmark h)
      rw [List.cons_append, List.cons_append, breakOn?, hhead, ih hfirst.2]
      rfl

/-- A mark between two spaces: what it is found behind may end in neither the mark nor
the mark without its last space. -/
theorem breakOn?_between_spaces
    {solid front : Text} (hsolid : ' ' ∉ solid) (hinside : ¬ ' ' :: (solid ++ [' ']) <:+: front)
    (hend : ¬ ' ' :: solid <:+ front) (rest : Text) :
    breakOn? (' ' :: (solid ++ [' '])) (front ++ ' ' :: (solid ++ [' ']) ++ rest) =
      some (front, rest) := by
  apply breakOn?_append rest (List.cons_ne_nil _ _)
  have hlast : (' ' :: (solid ++ [' '])).dropLast = ' ' :: solid := by
    rw [← List.cons_append, List.dropLast_concat]
  rw [hlast]
  intro hmark
  rcases hmark with ⟨before, after, hcut⟩
  have hsame : (before ++ ' ' :: solid) ++ ' ' :: after = front ++ ' ' :: solid := by
    simpa using hcut
  rcases List.append_eq_append_iff.mp hsame with ⟨more, hfront, hbehind⟩ | ⟨more, hfront, hbehind⟩
  · cases more with
    | nil =>
        rw [List.append_nil] at hfront
        exact hend ⟨before, hfront.symm⟩
    | cons c more =>
        rw [List.cons_append, List.cons.injEq] at hbehind
        apply hinside
        refine ⟨before, more, ?_⟩
        rw [hfront, ← hbehind.1]
        simp
  · cases more with
    | nil =>
        rw [List.append_nil] at hfront
        exact hend ⟨before, hfront⟩
    | cons c more =>
        rw [List.cons_append, List.cons.injEq] at hbehind
        apply hsolid
        rw [hbehind.2]
        exact List.mem_append_right more List.mem_cons_self

/-- In front of the part in front of a mark there is no mark. -/
theorem breakOn?_of_cons
    {mark text before after : Text} {c d : Char}
    (h : breakOn? mark (c :: text) = some (d :: before, after)) :
    ¬ mark <+: c :: text ∧ breakOn? mark text = some (before, after) := by
  rw [breakOn?] at h
  cases hhead : afterPrefix? mark (c :: text) with
  | some rest =>
      rw [hhead] at h
      cases h
  | none =>
      rw [hhead] at h
      rcases Option.map_eq_some_iff.mp h with ⟨cut, hcut, hpair⟩
      cases hpair
      exact ⟨afterPrefix?_eq_none_iff.mp hhead, hcut⟩

theorem breakOn?_eq_some_iff
    {mark text before after : Text} (hmark : mark ≠ []) :
    breakOn? mark text = some (before, after) ↔
      text = before ++ mark ++ after ∧ ¬ mark <:+: before ++ mark.dropLast := by
  constructor
  · intro h
    exact ⟨eq_append_of_breakOn? h, not_infix_of_breakOn? hmark h⟩
  · rintro ⟨rfl, hfirst⟩
    exact breakOn?_append after hmark hfirst

/-- No occurrence of a mark begins in front of the one that is found. -/
theorem length_le_of_breakOn?
    {mark text before after front rest : Text} (hmark : mark ≠ [])
    (h : breakOn? mark text = some (before, after)) (htext : text = front ++ mark ++ rest) :
    before.length ≤ front.length := by
  have hfound := (breakOn?_eq_some_iff hmark).mp h
  by_contra hlt
  apply hfound.2
  have hfront : front ++ mark <+: text := ⟨rest, htext.symm⟩
  have hbefore : before ++ mark.dropLast <+: text := by
    rw [hfound.1, List.append_assoc]
    exact (List.prefix_append_right_inj before).mpr
      ((List.dropLast_prefix mark).trans (List.prefix_append mark after))
  have hlength : (front ++ mark).length ≤ (before ++ mark.dropLast).length := by
    simp only [List.length_append, List.length_dropLast]
    omega
  exact (List.suffix_append front mark).isInfix.trans
    (List.prefix_of_prefix_length_le hfront hbefore hlength).isInfix

/-!
## Reading as far as a condition holds
-/

theorem takeWhile_append_of_stop
    {α : Type} {p : α → Bool} {front rest : List α} (hfront : ∀ c ∈ front, p c = true)
    (hrest : ∀ c, rest.head? = some c → p c = false) :
    (front ++ rest).takeWhile p = front ∧ (front ++ rest).dropWhile p = rest := by
  rw [List.takeWhile_append_of_pos hfront, List.dropWhile_append_of_pos hfront]
  cases rest with
  | nil => simp
  | cons c rest =>
      have hc : p c = false := hrest c rfl
      simp [hc]

/-- From the end a text is read as far back as to a mark. -/
theorem takeWhile_reverse_of_stop
    {α : Type} {p : α → Bool} {mark behind : List α} (hbehind : ∀ c ∈ behind, p c = true)
    (hmark : mark.getLast?.map p = some false) (front : List α) :
    (front ++ mark ++ behind).reverse.takeWhile p = behind.reverse ∧
      (front ++ mark ++ behind).reverse.dropWhile p = (front ++ mark).reverse := by
  rcases Option.map_eq_some_iff.mp hmark with ⟨m, hlast, hm⟩
  rw [List.reverse_append]
  apply takeWhile_append_of_stop
  · intro c hc
    exact hbehind c (List.mem_reverse.mp hc)
  · intro c hc
    rw [List.head?_reverse, List.getLast?_append, hlast, Option.some_or, Option.some.injEq] at hc
    rw [← hc]
    exact hm

end Text
end GhciBridge
