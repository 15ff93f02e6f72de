import GhciBridge.Proofs.Span.Layout
import GhciBridge.Proofs.Text.Words
import GhciBridge.Text.ShellWords

/-!
# Plain shell words

A word without quotes and backslashes that begins no comment is read as it is.  So a
line of such words with spaces and tabs between them comes apart at these.
-/

namespace GhciBridge

namespace ShellWords

/-- A word in which nothing has a meaning of its own. -/
structure IsPlain (word : Text) : Prop where
  solid : Text.IsWord word
  unquoted : ∀ c ∈ word, c ≠ '"' ∧ c ≠ '\'' ∧ c ≠ '\\'
  uncommented : word.head? ≠ some '#'

/-- What can stand between two words of a line. -/
structure IsGap (gap : Text) : Prop where
  nonempty : gap ≠ []
  separates : ∀ c ∈ gap, c = ' ' ∨ c = '\t'

theorem isSeparator_of_solid
    {c : Char} (hc : Text.isBlank c = false) :
    isSeparator c = false := by
  rw [← Bool.not_eq_true]
  intro hseparator
  simp only [isSeparator, Bool.or_eq_true, beq_iff_eq] at hseparator
  rcases hseparator with (rfl | rfl) | rfl
  · cases hc
  · cases hc
  · cases hc

theorem enter_of_unquoted
    {c : Char} (hc : c ≠ '"' ∧ c ≠ '\'' ∧ c ≠ '\\') :
    enter c = (.word, [c]) := by
  rw [enter]
  · exact hc.1
  · exact hc.2.1
  · exact hc.2.2

/-!
## The scan over words and gaps
-/

theorem scan_word_append
    {more : Text} (hsolid : ∀ c ∈ more, Text.isBlank c = false)
    (hunquoted : ∀ c ∈ more, c ≠ '"' ∧ c ≠ '\'' ∧ c ≠ '\\') (word rest : Text) :
    scan .word word (more ++ rest) = scan .word (word ++ more) rest := by
  induction more generalizing word with
  | nil => rw [List.nil_append, List.append_nil]
  | cons c more ih =>
      rw [List.forall_mem_cons] at hsolid hunquoted
      rw [List.cons_append, scan, isSeparator_of_solid hsolid.1, enter_of_unquoted hunquoted.1]
      simp only [Bool.false_eq_true, if_false]
      rw [ih hsolid.2 hunquoted.2, List.append_assoc, List.singleton_append]

theorem IsPlain.scan_append
    {word : Text} (h : IsPlain word) (rest : Text) :
    scan .gap [] (word ++ rest) = scan .word word rest := by
  rcases h with ⟨⟨hnonempty, hsolid⟩, hunquoted, hcomment⟩
  cases word with
  | nil => exact absurd rfl hnonempty
  | cons c more =>
      rw [List.forall_mem_cons] at hsolid hunquoted
      have hmark : (c == '#') = false := by
        rw [beq_eq_false_iff_ne]
        intro hc
        rw [hc] at hcomment
        exact hcomment rfl
      rw [List.cons_append, scan, isSeparator_of_solid hsolid.1, hmark,
        enter_of_unquoted hunquoted.1]
      simp only [Bool.false_eq_true, if_false]
      exact scan_word_append hsolid.2 hunquoted.2 [c] rest

theorem scan_gap_append
    {gap : Text} (hgap : ∀ c ∈ gap, c = ' ' ∨ c = '\t') (rest : Text) :
    scan .gap [] (gap ++ rest) = scan .gap [] rest := by
  induction gap with
  | nil => rfl
  | cons c gap ih =>
      rw [List.forall_mem_cons] at hgap
      rw [List.cons_append, scan, ← ih hgap.2]
      rcases hgap.1 with rfl | rfl
      · rfl
      · rfl

theorem IsGap.scan_append
    {gap : Text} (h : IsGap gap) (word rest : Text) :
    scan .word word (gap ++ rest) = (scan .gap [] rest).map (word :: ·) := by
  rcases h with ⟨hnonempty, hseparates⟩
  cases gap with
  | nil => exact absurd rfl hnonempty
  | cons c gap =>
      rw [List.forall_mem_cons] at hseparates
      rw [List.cons_append, scan, scan_gap_append hseparates.2]
      rcases hseparates.1 with rfl | rfl
      · rfl
      · rfl

theorem split?_of_isPlain
    {word : Text} (h : IsPlain word) :
    split? word = some [word] := by
  have hscan := h.scan_append []
  rw [List.append_nil] at hscan
  rw [split?, hscan, scan]

/-- The first word of a line is split off at the gap behind it. -/
theorem split?_append
    {word gap : Text} (hword : IsPlain word) (hgap : IsGap gap) (rest : Text) :
    split? (word ++ gap ++ rest) = (split? rest).map (word :: ·) := by
  rw [split?, List.append_assoc, hword.scan_append, hgap.scan_append, split?]

end ShellWords

/-!
## Numbers as words
-/

namespace Numeral

theorem isDigit_of_mem_ofNat
    {c : Char} {n : Nat} (hc : c ∈ Text.ofNat n) :
    c.isDigit = true :=
  Nat.isDigit_of_mem_toDigits (by decide) (by decide) hc

theorem isWord_ofNat
    (n : Nat) :
    Text.IsWord (Text.ofNat n) :=
  ⟨Nat.toDigits_ne_nil, fun _ hc => isBlank_of_isDigit (isDigit_of_mem_ofNat hc)⟩

theorem head?_ofNat_ne
    {c : Char} (hc : c.isDigit = false) (n : Nat) :
    (Text.ofNat n).head? ≠ some c := by
  intro hhead
  rw [isDigit_of_mem_ofNat (List.mem_of_head? hhead)] at hc
  cases hc

theorem isPlain_ofNat
    (n : Nat) :
    ShellWords.IsPlain (Text.ofNat n) := by
  refine ⟨isWord_ofNat n, fun c hc => ?_, head?_ofNat_ne rfl n⟩
  have hdigit := isDigit_of_mem_ofNat hc
  refine ⟨?_, ?_, ?_⟩
  · rintro rfl
    cases hdigit
  · rintro rfl
    cases hdigit
  · rintro rfl
    cases hdigit

theorem unsigned?_ofNat
    {bound n : Nat} (hn : n < bound) :
    unsigned? bound (Text.ofNat n) = some n := by
  have hvalue : value (Text.ofNat n) = n := Nat.ofDigitChars_ten_toDigits
  have hdigits : (Text.ofNat n).all Char.isDigit = true :=
    List.all_eq_true.mpr fun _ hc => isDigit_of_mem_ofNat hc
  have hbelow : below? bound (Text.ofNat n) = some n := by
    rw [below?, nat?, if_pos ⟨(isWord_ofNat n).nonempty, hdigits⟩, hvalue, Option.bind_some,
      if_pos hn]
  have hsign := head?_ofNat_ne (c := '+') rfl n
  rw [unsigned?, hbelow]
  intro digits hplus
  rw [hplus] at hsign
  exact hsign rfl

end Numeral
end GhciBridge
