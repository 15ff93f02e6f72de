import GhciBridge.Text.Blank

/-!
# Trimmed texts

Trimming takes blanks off both ends and nothing else: a character that is not
blank stays, and so does everything between two such characters.
-/

namespace GhciBridge
namespace Text

theorem trimEnd_isPrefix
    (text : Text) :
    trimEnd text <+: text := by
  have hsuffix := List.dropWhile_suffix isBlank (l := text.reverse)
  rw [trimEnd, ← List.reverse_suffix, List.reverse_reverse]
  exact hsuffix

theorem trimEnd_concat
    {c : Char} (hc : isBlank c = false) (front : Text) :
    trimEnd (front ++ [c]) = front ++ [c] := by
  simp [trimEnd, hc]

theorem trim_concat
    {c : Char} (hc : isBlank c = false) (front : Text) :
    trim (front ++ [c]) = trimStart front ++ [c] := by
  have hstart : trimStart (front ++ [c]) = trimStart front ++ [c] := by
    rw [trimStart, List.dropWhile_append]
    split
    · next hnil =>
        rw [List.isEmpty_iff] at hnil
        rw [trimStart, hnil]
        simp [hc]
    · rfl
  rw [trim, hstart, trimEnd_concat hc]

theorem trim_enclosed
    {c d : Char} (hc : isBlank c = false) (hd : isBlank d = false) (text : Text) :
    trim (c :: (text ++ [d])) = c :: (text ++ [d]) := by
  have hstart : trimStart (c :: text) = c :: text := trimStart_eq_self hc
  rw [← List.cons_append, trim_concat hd, hstart]

theorem startsBlank_append
    {front : Text} (hfront : front ≠ []) (rest : Text) :
    startsBlank (front ++ rest) = startsBlank front := by
  cases front with
  | nil => exact absurd rfl hfront
  | cons c front => rfl

theorem startsBlank_of_allBlank
    {text : Text} (hne : text ≠ []) (h : allBlank text = true) :
    startsBlank text = true := by
  cases text with
  | nil => exact absurd rfl hne
  | cons c rest =>
      rw [allBlank, List.all_cons, Bool.and_eq_true] at h
      exact h.1

theorem not_allBlank
    {text : Text} (hne : text ≠ []) (hstart : startsBlank text = false) :
    allBlank text = false := by
  cases hall : allBlank text with
  | false => rfl
  | true =>
      rw [startsBlank_of_allBlank hne hall] at hstart
      cases hstart

theorem startsBlank_trim
    (text : Text) :
    startsBlank (trim text) = false := by
  rcases trimEnd_isPrefix (trimStart text) with ⟨blanks, hblanks⟩
  cases hfront : trimEnd (trimStart text) with
  | nil =>
      rw [trim, hfront]
      rfl
  | cons c rest =>
      rw [hfront] at hblanks
      have hstart := startsBlank_trimStart text
      rw [← hblanks] at hstart
      rw [trim, hfront]
      exact hstart

theorem trim_isInfix
    (text : Text) :
    trim text <:+: text :=
  (trimEnd_isPrefix (trimStart text)).isInfix.trans (List.dropWhile_suffix isBlank).isInfix

theorem trim_eq_self
    {text : Text} (hstart : startsBlank text = false) (hend : startsBlank text.reverse = false) :
    trim text = text := by
  rw [trim, trimStart_eq_self hstart, trimEnd, ← trimStart, trimStart_eq_self hend,
    List.reverse_reverse]

theorem startsBlank_reverse_trim
    (text : Text) :
    startsBlank (trim text).reverse = false := by
  rw [trim, trimEnd, List.reverse_reverse]
  exact startsBlank_trimStart _

theorem trim_eq_self_iff
    {text : Text} :
    trim text = text ↔ startsBlank text = false ∧ startsBlank text.reverse = false := by
  constructor
  · intro htrim
    have hstart := startsBlank_trim text
    have hend := startsBlank_reverse_trim text
    rw [htrim] at hstart hend
    exact ⟨hstart, hend⟩
  · rintro ⟨hstart, hend⟩
    exact trim_eq_self hstart hend

theorem trim_trim
    (text : Text) :
    trim (trim text) = trim text :=
  trim_eq_self (startsBlank_trim text) (startsBlank_reverse_trim text)

/-- Only the ends of a text decide whether there is something to trim. -/
theorem trim_append
    {front back : Text} (hfront : front ≠ []) (hstart : startsBlank front = false)
    (hback : back ≠ []) (hend : startsBlank back.reverse = false) :
    trim (front ++ back) = front ++ back := by
  apply trim_eq_self
  · rw [startsBlank_append hfront]
    exact hstart
  · have hreverse : back.reverse ≠ [] := fun hnil => hback (List.reverse_eq_nil_iff.mp hnil)
    rw [List.reverse_append, startsBlank_append hreverse]
    exact hend

theorem trim_between
    {front back : Text} (hfront : front ≠ []) (hstart : startsBlank front = false)
    (hback : back ≠ []) (hend : startsBlank back.reverse = false) (middle : Text) :
    trim (front ++ middle ++ back) = front ++ middle ++ back := by
  apply trim_append (List.append_ne_nil_of_left_ne_nil hfront middle) _ hback hend
  exact (startsBlank_append hfront middle).trans hstart

/-!
## Blanks around a text
-/

theorem trimStart_append_of_allBlank
    {blanks : Text} (hblanks : allBlank blanks = true) (text : Text) :
    trimStart (blanks ++ text) = trimStart text := by
  have hblank := List.all_eq_true.mp hblanks
  rw [trimStart, List.dropWhile_append_of_pos hblank, trimStart]

theorem trimEnd_append_of_allBlank
    {blanks : Text} (hblanks : allBlank blanks = true) (text : Text) :
    trimEnd (text ++ blanks) = trimEnd text := by
  have hreverse : allBlank blanks.reverse = true := by
    rw [allBlank, List.all_reverse]
    exact hblanks
  rw [trimEnd, List.reverse_append, ← trimStart, trimStart_append_of_allBlank hreverse]
  rfl

theorem trim_padded
    {before text after : Text} (hbefore : allBlank before = true) (htrim : trim text = text)
    (hafter : allBlank after = true) :
    trim (before ++ text ++ after) = text := by
  rw [trim, List.append_assoc, trimStart_append_of_allBlank hbefore]
  by_cases hne : text = []
  · rw [hne, List.nil_append, (allBlank_iff_trimStart after).mp hafter]
    rfl
  · have hstart := (trim_eq_self_iff.mp htrim).1
    rw [trimStart_eq_self ((startsBlank_append hne after).trans hstart),
      trimEnd_append_of_allBlank hafter]
    rw [trim, trimStart_eq_self hstart] at htrim
    exact htrim

/-- Trimming leaves out nothing but blanks. -/
theorem exists_blanks_trim
    (text : Text) :
    ∃ before after, allBlank before = true ∧ allBlank after = true ∧
      text = before ++ trim text ++ after := by
  refine ⟨text.takeWhile isBlank, ((trimStart text).reverse.takeWhile isBlank).reverse,
    List.all_takeWhile, ?_, ?_⟩
  · rw [allBlank, List.all_reverse]
    exact List.all_takeWhile
  · have hback : trim text ++ ((trimStart text).reverse.takeWhile isBlank).reverse =
        trimStart text := by
      rw [trim, trimEnd, ← List.reverse_append, List.takeWhile_append_dropWhile,
        List.reverse_reverse]
    rw [List.append_assoc, hback, trimStart, List.takeWhile_append_dropWhile]

end Text
end GhciBridge
