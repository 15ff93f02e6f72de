import GhciBridge.Proofs.Text.Words

/-!
# Squeezing a text

Squeezing puts single spaces between the words of a text.  If the space is the only
blank character in it and stands neither first nor last, this collapses each run of
spaces; and a front that is spaced already stays as it is.
-/

namespace GhciBridge
namespace Text

/-!
## Runs of spaces
-/

/-- The text with one space for each run of spaces. -/
def collapse : Text → Text
  | [] => []
  | c :: text =>
      if c = ' ' ∧ text.head? = some ' ' then collapse text else c :: collapse text

theorem collapse_cons_of_solid
    {c : Char} (hc : isBlank c = false) (text : Text) :
    collapse (c :: text) = c :: collapse text := by
  apply if_neg
  rintro ⟨rfl, -⟩
  cases hc

theorem collapse_space_of_head?
    {text : Text} (htext : text.head? = some ' ') :
    collapse (' ' :: text) = collapse text :=
  if_pos ⟨rfl, htext⟩

theorem collapse_space_of_head?_ne
    {text : Text} (htext : text.head? ≠ some ' ') :
    collapse (' ' :: text) = ' ' :: collapse text :=
  if_neg fun h => htext h.2

@[simp] theorem head?_collapse
    (text : Text) :
    (collapse text).head? = text.head? := by
  induction text with
  | nil => rfl
  | cons c text ih =>
      rw [collapse]
      split
      · next h =>
          rw [ih, h.2, h.1]
          rfl
      · rfl

theorem collapse_append_of_solid
    {front : Text} (hfront : ∀ c ∈ front, isBlank c = false) (rest : Text) :
    collapse (front ++ rest) = front ++ collapse rest := by
  induction front with
  | nil => rfl
  | cons c front ih =>
      rw [List.forall_mem_cons] at hfront
      rw [List.cons_append, collapse_cons_of_solid hfront.1, ih hfront.2, List.cons_append]

theorem collapse_concat_of_solid
    {c : Char} (hc : isBlank c = false) (text : Text) :
    collapse (text ++ [c]) = collapse text ++ [c] := by
  induction text with
  | nil => exact collapse_cons_of_solid hc []
  | cons d text ih =>
      have hhead : (text ++ [c]).head? = some ' ' ↔ text.head? = some ' ' := by
        cases text with
        | nil =>
            rw [List.nil_append, List.head?_cons, List.head?_nil]
            constructor
            · rintro ⟨⟩
              cases hc
            · intro h
              cases h
        | cons e text => rfl
      rw [List.cons_append, collapse, collapse, ih]
      simp only [hhead]
      split
      · rfl
      · rfl

theorem collapse_sublist
    (text : Text) :
    (collapse text).Sublist text := by
  induction text with
  | nil => exact List.Sublist.refl []
  | cons c text ih =>
      rw [collapse]
      split
      · exact ih.cons c
      · exact ih.cons_cons c

theorem collapse_ne_cons
    (c : Char) (text : Text) :
    collapse text ≠ c :: text := by
  intro hsame
  have hlength := (collapse_sublist text).length_le
  rw [hsame, List.length_cons] at hlength
  omega

/-- Nothing is collapsed exactly if no two spaces stand side by side. -/
theorem collapse_eq_self_iff
    {text : Text} :
    collapse text = text ↔ ¬ "  ".toList <:+: text := by
  induction text with
  | nil => decide
  | cons c text ih =>
      have hhead : "  ".toList <+: c :: text ↔ c = ' ' ∧ text.head? = some ' ' := by
        cases text with
        | nil => simp
        | cons d text => simp [eq_comm]
      rw [List.infix_cons_iff, hhead, not_or, ← ih, collapse]
      split
      · next hrun =>
          constructor
          · intro hsame
            exact absurd hsame (collapse_ne_cons c text)
          · intro hsame
            exact absurd hrun hsame.1
      · next hrun => simp [hrun]

theorem words_cons_congr
    {text other : Text} (c : Char) (hhead : text.head? = other.head?)
    (hwords : words text = words other) :
    words (c :: text) = words (c :: other) := by
  cases text with
  | nil =>
      cases other with
      | nil => rfl
      | cons d other => cases hhead
  | cons d text =>
      cases other with
      | nil => cases hhead
      | cons e other =>
          cases hhead
          rw [words_cons_cons, words_cons_cons, hwords]

theorem words_collapse
    (text : Text) :
    words (collapse text) = words text := by
  induction text with
  | nil => rfl
  | cons c text ih =>
      rw [collapse]
      split
      · next hrun =>
          rw [ih, hrun.1, words_cons_of_blank (by decide)]
      · exact words_cons_congr c (head?_collapse text) ih

theorem Spaced.cons
    {c : Char} {text : Text} (hc : isBlank c = false) (h : Spaced text) :
    Spaced (c :: text) := by
  cases h with
  | word hword =>
      exact .word ⟨List.cons_ne_nil c text, List.forall_mem_cons.mpr ⟨hc, hword.solid⟩⟩
  | @more word rest hword hrest =>
      have hlonger : IsWord (c :: word) :=
        ⟨List.cons_ne_nil c word, List.forall_mem_cons.mpr ⟨hc, hword.solid⟩⟩
      exact .more hlonger hrest

/-- If a space is the only blank character, then only one in front can be left over. -/
theorem spaced_collapse
    {text : Text} (hne : text ≠ []) (hspace : ∀ c ∈ text, isBlank c = true → c = ' ')
    (hlast : ∀ c, text.getLast? = some c → isBlank c = false) :
    Spaced (collapse text) ∨ ∃ rest, collapse text = ' ' :: rest ∧ Spaced rest := by
  induction text with
  | nil => exact absurd rfl hne
  | cons c text ih =>
      rw [List.forall_mem_cons] at hspace
      cases text with
      | nil =>
          have hc : isBlank c = false := hlast c rfl
          rw [collapse_cons_of_solid hc]
          exact .inl (.word (isWord_singleton hc))
      | cons d rest =>
          have hlast' : ∀ e, (d :: rest).getLast? = some e → isBlank e = false := by
            intro e he
            apply hlast e
            rw [List.getLast?_cons_cons, he]
          -- what is behind a character may begin with a space, but with one only
          have hbehind := ih (List.cons_ne_nil d rest) hspace.2 hlast'
          cases hc : isBlank c with
          | false =>
              rw [collapse_cons_of_solid hc]
              rcases hbehind with hspaced | ⟨more, hmore, hspaced⟩
              · exact .inl (hspaced.cons hc)
              · rw [hmore]
                exact .inl (.more (isWord_singleton hc) hspaced)
          | true =>
              cases hspace.1 hc
              by_cases hd : (d :: rest).head? = some ' '
              · rw [collapse_space_of_head? hd]
                exact hbehind
              · rw [collapse_space_of_head?_ne hd]
                rcases hbehind with hspaced | ⟨more, hmore, -⟩
                · exact .inr ⟨_, rfl, hspaced⟩
                · have hhead := head?_collapse (d :: rest)
                  rw [hmore] at hhead
                  exact absurd hhead.symm hd

theorem squeeze_eq_collapse
    {text : Text} (hstart : startsBlank text = false)
    (hspace : ∀ c ∈ text, isBlank c = true → c = ' ')
    (hlast : ∀ c, text.getLast? = some c → isBlank c = false) :
    squeeze text = collapse text := by
  cases text with
  | nil => rfl
  | cons c text =>
      have hspaced : Spaced (collapse (c :: text)) := by
        rcases spaced_collapse (List.cons_ne_nil c text) hspace hlast with h | ⟨rest, hrest, -⟩
        · exact h
        · have hhead := head?_collapse (c :: text)
          rw [hrest] at hhead
          cases hhead
          cases hstart
      rw [← hspaced.squeeze, squeeze, squeeze, words_collapse]

/-!
## Squeezing behind a spaced front
-/

theorem Spaced.squeeze_append
    {front rest : Text} (hfront : Spaced front) (hrest : Text.words rest ≠ []) :
    Text.squeeze (front ++ ' ' :: rest) = front ++ ' ' :: Text.squeeze rest := by
  induction hfront with
  | word hword => exact hword.squeeze_append hrest
  | @more word behind hword hbehind ih =>
      have hne : Text.words (behind ++ ' ' :: rest) ≠ [] := by
        rw [words_append_cons_of_blank (by decide)]
        exact List.append_ne_nil_of_left_ne_nil hbehind.words_ne_nil _
      rw [List.append_assoc, List.cons_append, hword.squeeze_append hne, ih, List.append_assoc]
      rfl

theorem spaced_squeeze
    {text : Text} (hwords : words text ≠ []) :
    Spaced (squeeze text) :=
  spaced_joinWords hwords fun _ hword => isWord_of_mem_words hword

theorem head?_squeeze
    {c : Char} (hc : isBlank c = false) (text : Text) :
    (squeeze (c :: text)).head? = some c := by
  rcases exists_words_cons hc text with ⟨word, more, hwords⟩
  rw [squeeze, hwords, joinWords]
  cases more with
  | nil => rw [List.intercalate_singleton, List.head?_cons]
  | cons next more =>
      rw [List.intercalate_cons_cons, List.cons_append, List.cons_append, List.head?_cons]

end Text
end GhciBridge
