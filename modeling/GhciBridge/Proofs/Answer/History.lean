import GhciBridge.Proofs.Answer.Stop

/-!
# Listings of the evaluation history

Ghci prints one step of the history per line, with a count that runs backwards, the
name of the function and its span in parentheses.  A name may be made of colons or
parentheses and a path may hold both, but neither can be mistaken for the other: the
count ends at the first character that is no digit, the name at the first blank, and
the span at the last parenthesis.
-/

namespace GhciBridge

/-!
## Counts
-/

theorem Numeral.signedWord?_minus
    {digits : Text} {n : Int32} (h : word? digits = some n) :
    signedWord? ('-' :: digits) = some (Int32.ofInt (-n.toInt)) := by
  rcases word?_eq_some_iff.mp h with ⟨hne, hdigits, hlt, rfl⟩
  have hvalue : (Int32.ofNat (value digits)).toInt = value digits :=
    Int32.toInt_ofNat_of_lt hlt
  have hbound : value digits < Nat.pow 2 31 + 1 := Nat.lt_succ_of_lt hlt
  rw [signedWord?, below?, nat?, if_pos ⟨hne, List.all_eq_true.mpr hdigits⟩, Option.bind_some,
    if_pos hbound, hvalue]
  rfl

namespace Span

theorem saturate_toInt
    (n : Int32) :
    saturate n.toInt = n := by
  have hlow : Int32.minValue.toInt ≤ n.toInt := Int32.le_toInt n
  have hhigh : n.toInt ≤ Int32.maxValue.toInt := by
    have hlt := Int32.toInt_lt n
    rw [Int32.toInt_maxValue]
    omega
  rw [saturate, Int.min_eq_right hhigh, Int.max_eq_right hlow, Int32.ofInt_toInt]

/-- A count comes back from its negative. -/
theorem saturate_natAbs_neg
    {n : Int32} (h : 0 ≤ n) :
    saturate (Int32.ofInt (-n.toInt)).toInt.natAbs = n := by
  have hnonneg : 0 ≤ n.toInt := Int32.le_iff_toInt_le.mp h
  have hlt := Int32.toInt_lt n
  have hneg : (Int32.ofInt (-n.toInt)).toInt = -n.toInt :=
    Int32.toInt_ofInt_of_le (by omega) (by omega)
  rw [hneg, Int.natAbs_neg, Int.natAbs_of_nonneg hnonneg, saturate_toInt]

end Span

/-!
## Entries
-/

/-- A step of the evaluation history. -/
structure HistoryEntry where
  index : Int32
  function : Text
  span : Span

namespace HistoryEntry

/-- An entry as ghci prints one. -/
structure IsPrintable (entry : HistoryEntry) : Prop where
  index_nonneg : 0 ≤ entry.index
  function_isWord : Text.IsWord entry.function
  span_isPrintable : entry.span.IsPrintable

def frame (entry : HistoryEntry) : StackFrame :=
  .named entry.index entry.function ⟨entry.span, none⟩

/-- The line of an entry, with a gap behind the count. -/
def line (entry : HistoryEntry) (gap : Text) : Text :=
  '-' :: Span.number entry.index ++ gap ++ ": ".toList ++ entry.function ++ " (".toList ++
    entry.span.render ++ [')']

theorem trim_line
    (entry : HistoryEntry) (gap : Text) :
    Text.trim (entry.line gap) = entry.line gap :=
  Text.trim_enclosed rfl rfl _

/-- What stands behind the count of a line. -/
def afterCount (entry : HistoryEntry) : Text :=
  ':' :: ' ' :: (entry.function ++ ' ' :: '(' :: (entry.span.render ++ [')']))

theorem line_eq
    (entry : HistoryEntry) (gap : Text) :
    entry.line gap = '-' :: (Span.number entry.index ++ (gap ++ entry.afterCount)) := by
  simp [line, afterCount]

/-- The digits of a count end at the gap, or at the colon if there is none. -/
theorem digitsAtFront_count
    {entry : HistoryEntry} (h : 0 ≤ entry.index) {gap : Text}
    (hgap : Text.allBlank gap = true) :
    Numeral.digitsAtFront (Span.number entry.index ++ (gap ++ entry.afterCount)) =
      (Span.number entry.index, gap ++ entry.afterCount) := by
  have hdigits := (Numeral.word?_eq_some_iff.mp (Span.word?_number h)).2.1
  have hstop : ∀ c, (gap ++ entry.afterCount).head? = some c → c.isDigit = false := by
    intro c hc
    cases gap with
    | nil =>
        cases hc
        rfl
    | cons blank gap =>
        cases hc
        rw [Text.allBlank, List.all_cons, Bool.and_eq_true] at hgap
        cases hdigit : c.isDigit with
        | false => rfl
        | true =>
            rw [Numeral.isBlank_of_isDigit hdigit] at hgap
            cases hgap.1
  have hspan := Text.takeWhile_append_of_stop hdigits hstop
  rw [Numeral.digitsAtFront, hspan.1, hspan.2]

theorem afterPrefix?_gap
    (entry : HistoryEntry) {gap : Text} (hgap : Text.allBlank gap = true) :
    Text.afterPrefix? [':'] (Text.trimStart (gap ++ entry.afterCount)) =
      some (entry.afterCount.tail) := by
  have hblank := List.all_eq_true.mp hgap
  have htrim : Text.trimStart (gap ++ entry.afterCount) = entry.afterCount := by
    rw [Text.trimStart, List.dropWhile_append_of_pos hblank]
    rfl
  rw [htrim]
  rfl

/-- The function ends at the first blank, whatever it is made of. -/
theorem breakBlank_function
    {entry : HistoryEntry} (h : Text.IsWord entry.function) :
    Text.breakBlank (Text.trimStart entry.afterCount.tail) =
      (entry.function, ' ' :: '(' :: (entry.span.render ++ [')'])) := by
  have htrim : Text.trimStart entry.afterCount.tail =
      entry.function ++ ' ' :: '(' :: (entry.span.render ++ [')']) := by
    have hstart : Text.startsBlank
        (entry.function ++ ' ' :: '(' :: (entry.span.render ++ [')'])) = false := by
      rw [Text.startsBlank_append h.nonempty, h.startsBlank]
    exact Text.trimStart_eq_self hstart
  have hsolid : ∀ c ∈ entry.function, (!Text.isBlank c) = true := by
    intro c hc
    rw [h.solid c hc]
    rfl
  have hstop : ∀ c, (' ' :: '(' :: (entry.span.render ++ [')'])).head? = some c →
      (!Text.isBlank c) = false := by
    intro c hc
    cases hc
    rfl
  have hspan := Text.takeWhile_append_of_stop hsolid hstop
  rw [htrim, Text.breakBlank, hspan.1, hspan.2]

theorem historyEntry?_line
    {entry : HistoryEntry} (h : entry.IsPrintable) {gap : Text}
    (hgap : Text.allBlank gap = true) :
    Answer.historyEntry? (entry.line gap) = some entry.frame := by
  have hcount := digitsAtFront_count h.index_nonneg hgap
  have hindex := Numeral.signedWord?_minus (Span.word?_number h.index_nonneg)
  have hopen : Text.afterPrefix? ['(']
      (Text.trimStart (' ' :: '(' :: (entry.span.render ++ [')']))) =
        some (entry.span.render ++ [')']) := rfl
  have hfunction : ¬ (entry.function = [] ∨
      ¬ Text.startsBlank (' ' :: '(' :: (entry.span.render ++ [')'])) = true) := by
    intro hbad
    cases hbad with
    | inl hnil => exact h.function_isWord.nonempty hnil
    | inr hsolid => exact hsolid rfl
  rw [line_eq, Answer.historyEntry?]
  simp only [hcount, List.singleton_append, hindex, Option.bind_eq_bind, Option.bind_some,
    afterPrefix?_gap entry hgap, breakBlank_function h.function_isWord]
  rw [if_neg hfunction, hopen, Option.bind_some, List.getLast?_concat, if_pos rfl,
    List.dropLast_concat, Answer.read?_onOneLine h.span_isPrintable, Option.bind_some,
    Span.saturate_natAbs_neg h.index_nonneg]
  rfl

end HistoryEntry

/-!
## Listings
-/

/-- The lines of a listing: one for each entry, and lines of dots wherever ghci left
steps out. -/
inductive HistoryListing : List HistoryEntry → List Text → Prop where
  | nil : HistoryListing [] []
  | dots {entries : List HistoryEntry} {lines : List Text}
      (hrest : HistoryListing entries lines) :
      HistoryListing entries ("...".toList :: lines)
  | entry {entry : HistoryEntry} {entries : List HistoryEntry} {gap : Text} {lines : List Text}
      (hentry : entry.IsPrintable) (hgap : Text.allBlank gap = true)
      (hrest : HistoryListing entries lines) :
      HistoryListing (entry :: entries) (entry.line gap :: lines)

namespace HistoryListing

variable {entries : List HistoryEntry} {lines : List Text}

theorem historyFrames_append
    (h : HistoryListing entries lines) (further : List Text) :
    Answer.historyFrames (lines ++ "<end of history>".toList :: further) =
      (entries.map HistoryEntry.frame, further) := by
  induction h with
  | nil =>
      have htrim : Text.trim "<end of history>".toList = "<end of history>".toList := by decide
      rw [List.nil_append, Answer.historyFrames, htrim]
      exact if_pos rfl
  | dots hrest ih =>
      have htrim : Text.trim "...".toList = "...".toList := by decide
      have hend : "...".toList ≠ "<end of history>".toList := by decide
      rw [List.cons_append, Answer.historyFrames, htrim, ih]
      exact (if_neg hend).trans (if_pos rfl)
  | @entry entry entries gap lines hentry hgap hrest ih =>
      have hend : entry.line gap ≠ "<end of history>".toList := by
        intro hsame
        cases hsame
      have hdots : entry.line gap ≠ "...".toList := by
        intro hsame
        cases hsame
      rw [List.cons_append, Answer.historyFrames, HistoryEntry.trim_line, ih]
      refine (if_neg hend).trans ((if_neg hdots).trans ?_)
      rw [HistoryEntry.historyEntry?_line hentry hgap]
      rfl

/-- The first line of a listing is not blank, and is not the one that stands for an
empty history. -/
theorem exists_cons
    (h : HistoryListing entries lines) (hne : entries ≠ []) :
    ∃ first more, lines = first :: more ∧ Text.allBlank first = false ∧
      Text.beginsWith "Empty history.".toList (Text.trim first) = false := by
  cases h with
  | nil => exact absurd rfl hne
  | dots hrest => exact ⟨_, _, rfl, by decide, by decide⟩
  | entry hentry hgap hrest =>
      refine ⟨_, _, rfl, rfl, ?_⟩
      rw [HistoryEntry.trim_line]
      rfl

end HistoryListing

namespace Answer

/-- A listing is read back entry by entry up to the line that ends it. -/
theorem history_read_back
    {entries : List HistoryEntry} (hne : entries ≠ []) {lines : List Text}
    (hlines : HistoryListing entries lines) {blanks : List Text}
    (hblanks : ∀ line ∈ blanks, Text.allBlank line = true) (further : List Text) :
    history? (blanks ++ lines ++ "<end of history>".toList :: further) =
        some (.history (entries.map HistoryEntry.frame), further) ∧
      Buffer.history.on (blanks ++ lines ++ "<end of history>".toList :: further) =
        some (some (.history (entries.map HistoryEntry.frame)), further) := by
  have hread : history? (blanks ++ lines ++ "<end of history>".toList :: further) =
      some (.history (entries.map HistoryEntry.frame), further) := by
    have hframes := hlines.historyFrames_append further
    rcases hlines.exists_cons hne with ⟨first, more, rfl, hfirst, hempty⟩
    have hskip : Entry.skipBlank
        (blanks ++ (first :: more) ++ "<end of history>".toList :: further) =
          first :: (more ++ "<end of history>".toList :: further) := by
      rw [List.append_assoc, List.cons_append]
      exact Entry.skipBlank_append hblanks hfirst _
    rw [List.cons_append] at hframes
    rw [history?, hskip]
    simp only [hempty, hframes, if_neg Bool.false_ne_true]
    cases entries with
    | nil => exact absurd rfl hne
    | cons entry entries => rfl
  exact ⟨hread, Buffer.Reading.on_of_reader .history hread⟩

/-- Functions named like the marks of a line, and a path with a span in parentheses. -/
theorem marks_in_history_read_back :
    history? [
        [' '],
        "...".toList,
        "-1  : : (a (b:1:2) c.hs:(3,12)-(4,20))".toList,
        "...".toList,
        "-2147483647: (:) ((.hs:5:6)".toList,
        "...".toList,
        "<end of history>".toList,
        "-3  : f (a.hs:1:1)".toList] =
      some (.history [
        .named 1 ":".toList ⟨⟨"a (b:1:2) c.hs".toList, 3, 12, 4, 20⟩, none⟩,
        .named 2147483647 "(:)".toList ⟨⟨"(.hs".toList, 5, 6, 5, 6⟩, none⟩],
        ["-3  : f (a.hs:1:1)".toList]) := by
  have hcolon : HistoryEntry.IsPrintable
      ⟨1, ":".toList, ⟨"a (b:1:2) c.hs".toList, 3, 12, 4, 20⟩⟩ :=
    ⟨by decide, by decide, ⟨⟨by decide, by decide⟩, by decide, by decide, by decide, by decide,
      by decide⟩⟩
  have hcons : HistoryEntry.IsPrintable
      ⟨2147483647, "(:)".toList, ⟨"(.hs".toList, 5, 6, 5, 6⟩⟩ :=
    ⟨by decide, by decide, ⟨⟨by decide, by decide⟩, by decide, by decide, by decide, by decide,
      by decide⟩⟩
  have hgap : Text.allBlank "  ".toList = true := by decide
  have hnone : Text.allBlank [] = true := rfl
  have hlines := HistoryListing.dots <| .entry hcolon hgap <| .dots <|
    .entry hcons hnone <| .dots .nil
  have hblanks : ∀ line ∈ [[' ']], Text.allBlank line = true := by decide
  exact (history_read_back (List.cons_ne_nil _ _) hlines hblanks
    ["-3  : f (a.hs:1:1)".toList]).1

end Answer
end GhciBridge
