import GhciBridge.Proofs.Text.Search
import GhciBridge.Proofs.Text.Trim

/-!
# Words

A blank character ends the word in front of it and belongs to none, so the words of
a text are those in front of a blank and those behind it.  A text in which single
spaces stand between the words is what its words make up.
-/

namespace GhciBridge
namespace Text

/-- A text that is a single word. -/
structure IsWord (text : Text) : Prop where
  nonempty : text ≠ []
  solid : ∀ c ∈ text, isBlank c = false

instance (text : Text) : Decidable (IsWord text) :=
  decidable_of_iff (text ≠ [] ∧ text.all (fun c => !isBlank c) = true) <| by
    simp only [List.all_eq_true, Bool.not_eq_true']
    exact ⟨fun h => ⟨h.1, h.2⟩, fun h => ⟨h.nonempty, h.solid⟩⟩

/-- A text of words with a single space between each two. -/
inductive Spaced : Text → Prop where
  | word {word : Text} (hword : IsWord word) : Spaced word
  | more {word rest : Text} (hword : IsWord word) (hrest : Spaced rest) :
      Spaced (word ++ ' ' :: rest)

/-!
## The words of a text
-/

theorem words_singleton
    (c : Char) :
    words [c] = if isBlank c then [] else [[c]] := (rfl)

theorem words_cons_cons
    (c d : Char) (rest : Text) :
    words (c :: d :: rest) =
      if isBlank c then words (d :: rest)
      else if isBlank d then [c] :: words (d :: rest)
      else
        match words (d :: rest) with
        | [] => [[c]]
        | word :: words => (c :: word) :: words := (rfl)

theorem words_cons_of_blank
    {c : Char} (hc : isBlank c = true) (text : Text) :
    words (c :: text) = words text := by
  cases text with
  | nil => exact if_pos hc
  | cons d rest => exact if_pos hc

theorem exists_words_cons
    {c : Char} (hc : isBlank c = false) (text : Text) :
    ∃ word more, words (c :: text) = (c :: word) :: more := by
  cases text with
  | nil =>
      rw [words_singleton, hc]
      exact ⟨[], [], rfl⟩
  | cons d rest =>
      rw [words_cons_cons, hc]
      cases isBlank d with
      | true => exact ⟨[], words (d :: rest), rfl⟩
      | false =>
          cases words (d :: rest) with
          | nil => exact ⟨[], [], rfl⟩
          | cons word more => exact ⟨word, more, rfl⟩

theorem words_cons_ne_nil
    {c : Char} (hc : isBlank c = false) (text : Text) :
    words (c :: text) ≠ [] := by
  rcases exists_words_cons hc text with ⟨word, more, hwords⟩
  rw [hwords]
  exact List.cons_ne_nil (c :: word) more

/-- The words in front of a blank do not depend on what is behind it. -/
theorem words_append_cons_of_blank
    {b : Char} (hb : isBlank b = true) (front rest : Text) :
    words (front ++ b :: rest) = words front ++ words rest := by
  induction front with
  | nil => exact words_cons_of_blank hb rest
  | cons c front ih =>
      cases hc : isBlank c with
      | true => rw [List.cons_append, words_cons_of_blank hc, words_cons_of_blank hc, ih]
      | false =>
          cases front with
          | nil =>
              rw [List.singleton_append, words_cons_cons, words_singleton, hc, hb,
                words_cons_of_blank hb]
              rfl
          | cons d front =>
              rw [List.cons_append] at ih
              rw [List.cons_append, List.cons_append, words_cons_cons, words_cons_cons, ih, hc]
              cases hd : isBlank d with
              | true => rfl
              | false =>
                  cases hwords : words (d :: front) with
                  | nil => exact absurd hwords (words_cons_ne_nil hd front)
                  | cons word words => rfl

theorem words_append_of_allBlank
    {blanks : Text} (hblanks : allBlank blanks = true) (text : Text) :
    words (blanks ++ text) = words text := by
  induction blanks with
  | nil => rfl
  | cons c blanks ih =>
      rw [allBlank, List.all_cons, Bool.and_eq_true] at hblanks
      rw [List.cons_append, words_cons_of_blank hblanks.1]
      exact ih hblanks.2

theorem words_trimStart
    (text : Text) :
    words (trimStart text) = words text := by
  have hblanks : allBlank (text.takeWhile isBlank) = true := List.all_takeWhile
  have hwords := words_append_of_allBlank hblanks (trimStart text)
  rw [trimStart, List.takeWhile_append_dropWhile] at hwords
  exact hwords.symm

theorem words_ne_nil_of_not_allBlank
    {text : Text} (h : allBlank text = false) :
    words text ≠ [] := by
  cases htrim : trimStart text with
  | nil =>
      rw [(allBlank_iff_trimStart text).mpr htrim] at h
      cases h
  | cons c rest =>
      have hc := startsBlank_trimStart text
      rw [htrim] at hc
      rw [← words_trimStart, htrim]
      exact words_cons_ne_nil hc rest

/-- A trimmed text begins with the first word. -/
theorem exists_words_of_trim
    {text rest : Text} {c : Char} (h : trim text = c :: rest) :
    ∃ word more, words text = (c :: word) :: more := by
  have hc : isBlank c = false := by
    have hstart := startsBlank_trim text
    rw [h] at hstart
    exact hstart
  rcases trimEnd_isPrefix (trimStart text) with ⟨blanks, hblanks⟩
  have htext : trimStart text = c :: (rest ++ blanks) := by
    rw [← hblanks, ← trim, h]
    rfl
  rw [← words_trimStart, htext]
  exact exists_words_cons hc (rest ++ blanks)

theorem not_allBlank_of_words
    {text : Text} (hwords : words text ≠ []) :
    allBlank text = false := by
  cases hall : allBlank text with
  | false => rfl
  | true =>
      have hnil := words_append_of_allBlank hall []
      rw [List.append_nil] at hnil
      exact absurd hnil hwords

theorem isWord_singleton
    {c : Char} (hc : isBlank c = false) :
    IsWord [c] :=
  ⟨List.cons_ne_nil c [], fun _ hd => List.mem_singleton.mp hd ▸ hc⟩

theorem isWord_of_mem_words
    {text word : Text} (h : word ∈ words text) :
    IsWord word := by
  induction text generalizing word with
  | nil => cases h
  | cons c text ih =>
      cases hc : isBlank c with
      | true => exact ih (words_cons_of_blank hc text ▸ h)
      | false =>
          cases text with
          | nil =>
              rw [words_singleton, hc] at h
              exact List.mem_singleton.mp h ▸ isWord_singleton hc
          | cons d rest =>
              rw [words_cons_cons, hc] at h
              cases hd : isBlank d with
              | true =>
                  rw [hd] at h
                  rcases List.mem_cons.mp h with rfl | h
                  · exact isWord_singleton hc
                  · exact ih h
              | false =>
                  rw [hd] at h
                  cases hwords : words (d :: rest) with
                  | nil =>
                      rw [hwords] at h
                      exact List.mem_singleton.mp h ▸ isWord_singleton hc
                  | cons first others =>
                      rw [hwords] at h ih
                      rcases List.mem_cons.mp h with rfl | h
                      · have hfirst := ih List.mem_cons_self
                        exact ⟨List.cons_ne_nil c first,
                          List.forall_mem_cons.mpr ⟨hc, hfirst.solid⟩⟩
                      · exact ih (List.mem_cons_of_mem first h)

namespace IsWord

variable {word : Text}

theorem words
    (hword : IsWord word) :
    words word = [word] := by
  rcases hword with ⟨hnonempty, hsolid⟩
  induction word with
  | nil => exact absurd rfl hnonempty
  | cons c rest ih =>
      rw [List.forall_mem_cons] at hsolid
      cases rest with
      | nil =>
          rw [words_singleton, hsolid.1]
          rfl
      | cons d rest =>
          have hd : isBlank d = false := hsolid.2 d List.mem_cons_self
          rw [words_cons_cons, hsolid.1, hd, ih (List.cons_ne_nil d rest) hsolid.2]
          rfl

/-- What stands behind the first word begins the second. -/
theorem exists_words_of_trim_append
    (hword : IsWord word) {text rest : Text} {c : Char} (hc : isBlank c = false)
    (h : trim text = word ++ ' ' :: c :: rest) :
    ∃ second more, Text.words text = word :: (c :: second) :: more := by
  rcases trimEnd_isPrefix (trimStart text) with ⟨blanks, hblanks⟩
  have htext : trimStart text = word ++ ' ' :: c :: (rest ++ blanks) := by
    rw [← hblanks, ← trim, h, List.append_assoc]
    rfl
  rcases exists_words_cons hc (rest ++ blanks) with ⟨second, more, hwords⟩
  refine ⟨second, more, ?_⟩
  rw [← words_trimStart, htext, words_append_cons_of_blank (by decide), hword.words, hwords]
  rfl

theorem squeeze_append
    (hword : IsWord word) {rest : Text} (hrest : Text.words rest ≠ []) :
    squeeze (word ++ ' ' :: rest) = word ++ ' ' :: squeeze rest := by
  rw [squeeze, words_append_cons_of_blank (by decide), hword.words, List.singleton_append,
    joinWords, List.intercalate_cons_of_ne_nil hrest, List.append_assoc]
  rfl

theorem startsBlank
    (hword : IsWord word) :
    startsBlank word = false := by
  cases word with
  | nil => rfl
  | cons c rest => exact hword.solid c List.mem_cons_self

theorem reverse
    (hword : IsWord word) :
    IsWord word.reverse :=
  ⟨fun h => hword.nonempty (List.reverse_eq_nil_iff.mp h),
    fun c hc => hword.solid c (List.mem_reverse.mp hc)⟩

end IsWord

/-!
## Where a text can be cut
-/

theorem breakBlank_append
    {front rest : Text} (hfront : ∀ c ∈ front, isBlank c = false)
    (hrest : rest ≠ [] → startsBlank rest = true) :
    breakBlank (front ++ rest) = (front, rest) := by
  have hsolid : ∀ c ∈ front, (!isBlank c) = true := by
    intro c hc
    rw [hfront c hc]
    rfl
  have hstop : ∀ c, rest.head? = some c → (!isBlank c) = false := by
    intro c hc
    cases rest with
    | nil => cases hc
    | cons d rest =>
        cases hc
        rw [Bool.not_eq_false']
        exact hrest (List.cons_ne_nil c rest)
  have hspan := takeWhile_append_of_stop hsolid hstop
  rw [breakBlank, hspan.1, hspan.2]

theorem append_breakBlank
    (text : Text) :
    (breakBlank text).1 ++ (breakBlank text).2 = text :=
  List.takeWhile_append_dropWhile

theorem startsBlank_breakBlank
    {text : Text} (h : (breakBlank text).2 ≠ []) :
    startsBlank (breakBlank text).2 = true := by
  have hhead := List.head?_dropWhile_not (fun c => !isBlank c) text
  rw [breakBlank] at h ⊢
  cases hrest : text.dropWhile (fun c => !isBlank c) with
  | nil => exact absurd hrest h
  | cons c rest =>
      rw [hrest, List.head?_cons] at hhead
      simpa [startsBlank] using hhead

/-- The first space of a text cannot stand behind any other space of it. -/
theorem cut_of_solid
    {word behind front rest : Text} (hword : ∀ c ∈ word, isBlank c = false)
    (h : word ++ ' ' :: behind = front ++ ' ' :: rest) :
    front = word ∧ rest = behind ∨
      ∃ more, front = word ++ ' ' :: more ∧ behind = more ++ ' ' :: rest := by
  rcases List.append_eq_append_iff.mp h with ⟨inside, hfront, hcut⟩ | ⟨inside, hfront, hcut⟩
  · cases inside with
    | nil =>
        rw [List.append_nil] at hfront
        rw [List.nil_append, List.cons.injEq] at hcut
        exact .inl ⟨hfront, hcut.2.symm⟩
    | cons c more =>
        rw [List.cons_append, List.cons.injEq] at hcut
        rcases hcut with ⟨rfl, hcut⟩
        exact .inr ⟨more, hfront, hcut⟩
  · cases inside with
    | nil =>
        rw [List.append_nil] at hfront
        rw [List.nil_append, List.cons.injEq] at hcut
        exact .inl ⟨hfront.symm, hcut.2⟩
    | cons c more =>
        rw [List.cons_append, List.cons.injEq] at hcut
        rcases hcut with ⟨rfl, _⟩
        have hspace := hword ' ' (by simp [hfront])
        cases hspace

theorem IsWord.eq_of_append
    {word other behind rest : Text} (hword : IsWord word) (hother : IsWord other)
    (h : word ++ ' ' :: behind = other ++ ' ' :: rest) :
    word = other ∧ behind = rest := by
  rcases cut_of_solid hword.solid h with ⟨hsame, hrest⟩ | ⟨more, hmore, -⟩
  · exact ⟨hsame.symm, hrest.symm⟩
  · have hspace := hother.solid ' ' (by simp [hmore])
    cases hspace

namespace Spaced

variable {text : Text}

/-- At each of its spaces the text comes apart into two such texts. -/
theorem parts
    {front rest : Text} (h : Spaced text) (htext : text = front ++ ' ' :: rest) :
    Spaced front ∧ Spaced rest := by
  induction h generalizing front with
  | word hword =>
      have hspace := hword.solid ' ' (by simp [htext])
      cases hspace
  | more hword hbehind ih =>
      rcases cut_of_solid hword.solid htext with ⟨rfl, rfl⟩ | ⟨more, rfl, hbehind'⟩
      · exact ⟨.word hword, hbehind⟩
      · have hparts := ih hbehind'
        exact ⟨.more hword hparts.1, hparts.2⟩

theorem append
    {front rest : Text} (hfront : Spaced front) (hrest : Spaced rest) :
    Spaced (front ++ ' ' :: rest) := by
  induction hfront with
  | word hword => exact .more hword hrest
  | more hword _ ih =>
      rw [List.append_assoc]
      exact .more hword ih

theorem reverse
    (h : Spaced text) :
    Spaced text.reverse := by
  induction h with
  | word hword => exact .word hword.reverse
  | more hword _ ih =>
      rw [List.reverse_append, List.reverse_cons, List.append_assoc]
      exact ih.append (.word hword.reverse)

theorem startsBlank
    (h : Spaced text) :
    startsBlank text = false := by
  cases h with
  | word hword => exact hword.startsBlank
  | more hword => exact (startsBlank_append hword.nonempty _).trans hword.startsBlank

theorem trim
    (h : Spaced text) :
    trim text = text :=
  trim_eq_self h.startsBlank h.reverse.startsBlank

theorem words_ne_nil
    (h : Spaced text) :
    words text ≠ [] := by
  cases h with
  | word hword =>
      rw [hword.words]
      exact List.cons_ne_nil _ _
  | more hword hrest =>
      rw [words_append_cons_of_blank (by decide), hword.words]
      exact List.cons_ne_nil _ _

theorem not_allBlank
    (h : Spaced text) :
    allBlank text = false :=
  not_allBlank_of_words h.words_ne_nil

theorem squeeze
    (h : Spaced text) :
    squeeze text = text := by
  induction h with
  | word hword =>
      rw [Text.squeeze, hword.words]
      exact List.intercalate_singleton
  | more hword hrest ih => rw [hword.squeeze_append hrest.words_ne_nil, ih]

end Spaced

theorem joinWords_cons_cons
    (word next : Text) (more : List Text) :
    joinWords (word :: next :: more) = word ++ ' ' :: joinWords (next :: more) := by
  rw [joinWords, joinWords, List.intercalate_cons_cons, List.append_assoc]
  rfl

theorem exists_joinWords_cons
    (c : Char) (word : Text) (more : List Text) :
    ∃ rest, joinWords ((c :: word) :: more) = c :: rest := by
  cases more with
  | nil => exact ⟨word, List.intercalate_singleton⟩
  | cons next more => exact ⟨_, joinWords_cons_cons (c :: word) next more⟩

theorem spaced_joinWords
    {texts : List Text} (hne : texts ≠ []) (h : ∀ text ∈ texts, IsWord text) :
    Spaced (joinWords texts) := by
  induction texts with
  | nil => exact absurd rfl hne
  | cons text texts ih =>
      rw [List.forall_mem_cons] at h
      cases texts with
      | nil =>
          rw [joinWords, List.intercalate_singleton]
          exact .word h.1
      | cons next texts =>
          have hrest := ih (List.cons_ne_nil next texts) h.2
          rw [joinWords, List.intercalate_cons_cons, List.append_assoc]
          exact .more h.1 hrest

/-- A text is spaced if it is not empty and squeezing leaves it as it is. -/
theorem spaced_iff
    {text : Text} :
    Spaced text ↔ text ≠ [] ∧ squeeze text = text := by
  constructor
  · intro h
    refine ⟨fun hnil => ?_, h.squeeze⟩
    apply h.words_ne_nil
    rw [hnil]
    rfl
  · rintro ⟨hne, hsqueeze⟩
    rw [← hsqueeze]
    apply spaced_joinWords
    · intro hnil
      apply hne
      rw [← hsqueeze, squeeze, hnil]
      rfl
    · intro word hword
      exact isWord_of_mem_words hword

instance (text : Text) : Decidable (Spaced text) :=
  decidable_of_iff _ spaced_iff.symm

end Text
end GhciBridge
