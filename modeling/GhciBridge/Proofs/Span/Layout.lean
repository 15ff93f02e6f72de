import GhciBridge.Span
import GhciBridge.Proofs.Text.Search
import GhciBridge.Proofs.Text.Trim

/-!
# Layouts of spans

A span is spelled in one of three layouts, and a path may hold text that looks
like a span in any of them.  The numbers stand at the end of the text, each behind
a mark that is no digit, so the longest run of digits is the only way to read
them: a text spells at most one span.

A printable span is one whose rendering spells it.
-/

namespace GhciBridge

/-!
## Numerals
-/

namespace Numeral

theorem word?_eq_some_iff
    {digits : Text} {n : Int32} :
    word? digits = some n ↔
      digits ≠ [] ∧ (∀ c ∈ digits, c.isDigit = true) ∧
        value digits < Nat.pow 2 31 ∧ Int32.ofNat (value digits) = n := by
  rw [word?, below?, nat?, Option.map_eq_some_iff]
  constructor
  · rintro ⟨k, hk, rfl⟩
    rcases Option.bind_eq_some_iff.mp hk with ⟨m, hm, hbound⟩
    rw [Option.ite_none_right_eq_some, List.all_eq_true] at hm
    rw [Option.ite_none_right_eq_some] at hbound
    rcases hm with ⟨hdigits, hvalue⟩
    rcases hbound with ⟨hlt, hsame⟩
    cases hvalue
    cases hsame
    exact ⟨hdigits.1, hdigits.2, hlt, rfl⟩
  · rintro ⟨hne, hdigits, hlt, rfl⟩
    refine ⟨value digits, ?_, rfl⟩
    rw [if_pos ⟨hne, List.all_eq_true.mpr hdigits⟩, Option.bind_some, if_pos hlt]

theorem nonneg_of_word?
    {digits : Text} {n : Int32} (h : word? digits = some n) :
    0 ≤ n := by
  rcases word?_eq_some_iff.mp h with ⟨-, -, hlt, rfl⟩
  rw [Int32.le_iff_toInt_le, Int32.toInt_ofNat_of_lt hlt]
  exact Int.natCast_nonneg _

theorem isBlank_of_isDigit
    {c : Char} (hc : c.isDigit = true) :
    Text.isBlank c = false := by
  rw [Char.isDigit, Bool.and_eq_true, decide_eq_true_eq, decide_eq_true_eq] at hc
  have hlow : 48 ≤ c.toNat := hc.1
  have hhigh : c.toNat ≤ 57 := hc.2
  simp only [Text.isBlank, Bool.or_eq_false_iff, Bool.and_eq_false_iff, beq_eq_false_iff_ne,
    decide_eq_false_iff_not]
  omega

/-- The last character of a number is a digit. -/
theorem exists_concat_of_word?
    {digits : Text} {n : Int32} (h : word? digits = some n) :
    ∃ front c, digits = front ++ [c] ∧ c.isDigit = true := by
  rcases word?_eq_some_iff.mp h with ⟨hne, hdigits, -⟩
  refine ⟨digits.dropLast, digits.getLast hne, ?_, hdigits _ (List.getLast_mem hne)⟩
  exact (List.dropLast_concat_getLast hne).symm

end Numeral

namespace Span

theorem word?_number
    {n : Int32} (h : 0 ≤ n) :
    Numeral.word? (number n) = some n := by
  have hnonneg : 0 ≤ n.toInt := Int32.le_iff_toInt_le.mp h
  have hbound := Int32.toInt_lt n
  obtain ⟨k, hk⟩ := Int.eq_ofNat_of_zero_le hnonneg
  have hnumber : number n = Nat.toDigits 10 k := by
    rw [number, hk]
    rfl
  have hvalue : Numeral.value (Nat.toDigits 10 k) = k := Nat.ofDigitChars_ten_toDigits
  have hlt : k < 2 ^ 31 := by
    rw [hk] at hbound
    exact_mod_cast hbound
  rw [hnumber, Numeral.word?_eq_some_iff, hvalue]
  refine ⟨Nat.toDigits_ne_nil, ?_, hlt, ?_⟩
  · intro c hc
    exact Nat.isDigit_of_mem_toDigits (by decide) (by decide) hc
  · rw [← Int32.ofInt_toInt n, hk]
    exact Int32.ofInt_eq_ofNat.symm

/-!
## Taking a text apart from its end
-/

/-- A number is read as far as its digits go, so the mark in front of it must not
end in one. -/
theorem popNumber?_append
    {digits mark : Text} {n : Int32} (hdigits : Numeral.word? digits = some n)
    (hmark : mark.getLast?.map Char.isDigit = some false) (front : Text) :
    popNumber? (front ++ mark ++ digits).reverse = some (n, (front ++ mark).reverse) := by
  rcases Numeral.word?_eq_some_iff.mp hdigits with ⟨-, hall, -⟩
  have hspan := Text.takeWhile_reverse_of_stop hall hmark front
  rw [popNumber?, Numeral.digitsAtFront, hspan.1, hspan.2]
  simp only [List.reverse_reverse, hdigits]
  rfl

theorem exists_of_popNumber?
    {backwards rest : Text} {n : Int32} (h : popNumber? backwards = some (n, rest)) :
    ∃ digits, Numeral.word? digits = some n ∧ backwards.reverse = rest.reverse ++ digits := by
  rw [popNumber?] at h
  rcases Option.map_eq_some_iff.mp h with ⟨m, hword, hpair⟩
  rw [Prod.mk.injEq] at hpair
  rcases hpair with ⟨rfl, hrest⟩
  refine ⟨_, hword, ?_⟩
  rw [← hrest, ← List.reverse_append, List.takeWhile_append_dropWhile]

theorem popMark?_append
    (front mark : Text) :
    popMark? mark (front ++ mark).reverse = some front.reverse := by
  rw [popMark?, List.reverse_append, Text.afterPrefix?_append]

theorem reverse_of_popMark?
    {mark backwards rest : Text} (h : popMark? mark backwards = some rest) :
    backwards.reverse = rest.reverse ++ mark := by
  rw [Text.afterPrefix?_eq_some_iff.mp h, List.reverse_append, List.reverse_reverse]

/-- A text that can name a file in front of the numbers of a span. -/
structure IsPath (path : Text) : Prop where
  ne_nil : path ≠ []
  newline_notMem : '\n' ∉ path

theorem popPath?_eq_some_iff
    {backwards path : Text} :
    popPath? backwards = some path ↔ IsPath path ∧ backwards.reverse = path := by
  rw [popPath?, Option.ite_none_right_eq_some, Option.some.injEq]
  constructor
  · rintro ⟨⟨hne, hnewline⟩, rfl⟩
    exact ⟨⟨fun hnil => hne (List.reverse_eq_nil_iff.mp hnil),
      fun hmem => hnewline (List.mem_reverse.mp hmem)⟩, rfl⟩
  · rintro ⟨hpath, rfl⟩
    exact ⟨⟨fun hnil => hpath.ne_nil (List.reverse_eq_nil_iff.mpr hnil),
      fun hmem => hpath.newline_notMem (List.mem_reverse.mpr hmem)⟩, rfl⟩

/-!
## The layouts
-/

/-- The texts that spell a span. -/
inductive Spells : Text → Span → Prop where
  | point {path line column : Text} {l c : Int32}
      (hpath : IsPath path)
      (hline : Numeral.word? line = some l)
      (hcolumn : Numeral.word? column = some c) :
      Spells (path ++ [':'] ++ line ++ [':'] ++ column) ⟨path, l, c, l, c⟩
  | columns {path line column last : Text} {l c e : Int32}
      (hpath : IsPath path)
      (hline : Numeral.word? line = some l)
      (hcolumn : Numeral.word? column = some c)
      (hlast : Numeral.word? last = some e) :
      Spells (path ++ [':'] ++ line ++ [':'] ++ column ++ ['-'] ++ last) ⟨path, l, c, l, e⟩
  | lines {path startLine startColumn endLine endColumn : Text} {l c m e : Int32}
      (hpath : IsPath path)
      (hstartLine : Numeral.word? startLine = some l)
      (hstartColumn : Numeral.word? startColumn = some c)
      (hendLine : Numeral.word? endLine = some m)
      (hendColumn : Numeral.word? endColumn = some e) :
      Spells (path ++ ":(".toList ++ startLine ++ [','] ++ startColumn ++ ")-(".toList ++
        endLine ++ [','] ++ endColumn ++ [')']) ⟨path, l, c, m, e⟩

/-!
## Each reader reads its layout
-/

theorem readPoint?_point
    {path line column : Text} {l c : Int32} (hpath : IsPath path)
    (hline : Numeral.word? line = some l) (hcolumn : Numeral.word? column = some c) :
    readPoint? (path ++ [':'] ++ line ++ [':'] ++ column).reverse = some ⟨path, l, c, l, c⟩ := by
  have hpop : popPath? path.reverse = some path :=
    popPath?_eq_some_iff.mpr ⟨hpath, List.reverse_reverse path⟩
  rw [readPoint?, popNumber?_append hcolumn rfl]
  simp only [Option.bind_eq_bind, Option.bind_some]
  rw [popMark?_append, Option.bind_some, popNumber?_append hline rfl]
  simp only [Option.bind_some]
  rw [popMark?_append, Option.bind_some, hpop, Option.bind_some]

theorem readColumns?_columns
    {path line column last : Text} {l c e : Int32} (hpath : IsPath path)
    (hline : Numeral.word? line = some l) (hcolumn : Numeral.word? column = some c)
    (hlast : Numeral.word? last = some e) :
    readColumns? (path ++ [':'] ++ line ++ [':'] ++ column ++ ['-'] ++ last).reverse =
      some ⟨path, l, c, l, e⟩ := by
  rw [readColumns?, popNumber?_append hlast rfl]
  simp only [Option.bind_eq_bind, Option.bind_some]
  rw [popMark?_append, Option.bind_some, readPoint?_point hpath hline hcolumn, Option.bind_some]

theorem readLines?_lines
    {path startLine startColumn endLine endColumn : Text} {l c m e : Int32} (hpath : IsPath path)
    (hstartLine : Numeral.word? startLine = some l)
    (hstartColumn : Numeral.word? startColumn = some c)
    (hendLine : Numeral.word? endLine = some m) (hendColumn : Numeral.word? endColumn = some e) :
    readLines? (path ++ ":(".toList ++ startLine ++ [','] ++ startColumn ++ ")-(".toList ++
      endLine ++ [','] ++ endColumn ++ [')']).reverse = some ⟨path, l, c, m, e⟩ := by
  have hpop : popPath? path.reverse = some path :=
    popPath?_eq_some_iff.mpr ⟨hpath, List.reverse_reverse path⟩
  rw [readLines?, popMark?_append]
  simp only [Option.bind_eq_bind, Option.bind_some]
  rw [popNumber?_append hendColumn rfl]
  simp only [Option.bind_some]
  rw [popMark?_append, Option.bind_some, popNumber?_append hendLine rfl]
  simp only [Option.bind_some]
  rw [popMark?_append, Option.bind_some, popNumber?_append hstartColumn rfl]
  simp only [Option.bind_some]
  rw [popMark?_append, Option.bind_some, popNumber?_append hstartLine rfl]
  simp only [Option.bind_some]
  rw [popMark?_append, Option.bind_some, hpop, Option.bind_some]

/-- What stands in front of the numbers of a point, and the numbers. -/
theorem exists_of_readPoint?
    {backwards : Text} {s : Span} (h : readPoint? backwards = some s) :
    ∃ line column, IsPath s.path ∧
      Numeral.word? line = some s.startLine ∧ Numeral.word? column = some s.startColumn ∧
      backwards.reverse = s.path ++ [':'] ++ line ++ [':'] ++ column ∧
      s = ⟨s.path, s.startLine, s.startColumn, s.startLine, s.startColumn⟩ := by
  simp only [readPoint?, Option.bind_eq_bind, Option.bind_eq_some_iff] at h
  rcases h with ⟨⟨c, _⟩, hcolumn, _, hmark, ⟨l, _⟩, hline, _, hmark', path, hpath, hs⟩
  cases hs
  rcases exists_of_popNumber? hcolumn with ⟨column, hcolumn, htext⟩
  rcases exists_of_popNumber? hline with ⟨line, hline, htext'⟩
  rcases popPath?_eq_some_iff.mp hpath with ⟨hpath, hfront⟩
  refine ⟨line, column, hpath, hline, hcolumn, ?_, rfl⟩
  rw [htext, reverse_of_popMark? hmark, htext', reverse_of_popMark? hmark', hfront]

theorem spells_of_readPoint?
    {backwards : Text} {s : Span} (h : readPoint? backwards = some s) :
    Spells backwards.reverse s := by
  rcases exists_of_readPoint? h with ⟨line, column, hpath, hline, hcolumn, htext, hs⟩
  rw [htext, hs]
  exact .point hpath hline hcolumn

theorem spells_of_readColumns?
    {backwards : Text} {s : Span} (h : readColumns? backwards = some s) :
    Spells backwards.reverse s := by
  simp only [readColumns?, Option.bind_eq_bind, Option.bind_eq_some_iff] at h
  rcases h with ⟨⟨e, _⟩, hlast, _, hmark, point, hpoint, hs⟩
  cases hs
  rcases exists_of_popNumber? hlast with ⟨last, hlast, htext⟩
  rcases exists_of_readPoint? hpoint with ⟨line, column, hpath, hline, hcolumn, htext', hs⟩
  rw [htext, reverse_of_popMark? hmark, htext', hs]
  exact .columns hpath hline hcolumn hlast

theorem spells_of_readLines?
    {backwards : Text} {s : Span} (h : readLines? backwards = some s) :
    Spells backwards.reverse s := by
  simp only [readLines?, Option.bind_eq_bind, Option.bind_eq_some_iff] at h
  rcases h with ⟨_, hclose, ⟨e, _⟩, hendColumn, _, hcomma, ⟨m, _⟩, hendLine, _, hmiddle, ⟨c, _⟩,
    hstartColumn, _, hcomma', ⟨l, _⟩, hstartLine, _, hopen, path, hpath, hs⟩
  cases hs
  rcases exists_of_popNumber? hendColumn with ⟨endColumn, hendColumn, h₁⟩
  rcases exists_of_popNumber? hendLine with ⟨endLine, hendLine, h₂⟩
  rcases exists_of_popNumber? hstartColumn with ⟨startColumn, hstartColumn, h₃⟩
  rcases exists_of_popNumber? hstartLine with ⟨startLine, hstartLine, h₄⟩
  rcases popPath?_eq_some_iff.mp hpath with ⟨hpath, hfront⟩
  rw [reverse_of_popMark? hclose, h₁, reverse_of_popMark? hcomma, h₂, reverse_of_popMark? hmiddle,
    h₃, reverse_of_popMark? hcomma', h₄, reverse_of_popMark? hopen, hfront]
  exact .lines hpath hstartLine hstartColumn hendLine hendColumn

/-!
## A text spells at most one span

The last character tells the layout with two lines from the others, and the mark in
front of the last number tells the other two apart.
-/

theorem readLines?_of_number
    {digits : Text} {n : Int32} (hdigits : Numeral.word? digits = some n) (front : Text) :
    readLines? (front ++ digits).reverse = none := by
  rcases Numeral.exists_concat_of_word? hdigits with ⟨init, c, rfl, hc⟩
  have hparen : ')' ≠ c := by
    rintro rfl
    cases hc
  have hmark : popMark? [')'] (front ++ (init ++ [c])).reverse = none := by
    rw [← List.append_assoc, List.reverse_concat]
    exact if_neg hparen
  rw [readLines?, hmark]
  rfl

theorem readColumns?_of_point
    {column : Text} {c : Int32} (hcolumn : Numeral.word? column = some c) (front : Text) :
    readColumns? (front ++ [':'] ++ column).reverse = none := by
  have hmark : popMark? ['-'] (front ++ [':']).reverse = none := by
    rw [List.reverse_concat]
    rfl
  rw [readColumns?, popNumber?_append hcolumn rfl]
  simp only [Option.bind_eq_bind, Option.bind_some]
  rw [hmark, Option.bind_none]

theorem read?_eq_some_iff
    {text : Text} {s : Span} :
    read? text = some s ↔ Spells (Text.trim text) s := by
  rw [read?]
  constructor
  · intro h
    rw [← List.reverse_reverse (Text.trim text)]
    rcases Option.or_eq_some_iff.mp h with hlines | ⟨-, h⟩
    · exact spells_of_readLines? hlines
    · rcases Option.or_eq_some_iff.mp h with hcolumns | ⟨-, hpoint⟩
      · exact spells_of_readColumns? hcolumns
      · exact spells_of_readPoint? hpoint
  · intro h
    generalize Text.trim text = trimmed at h
    cases h with
    | point hpath hline hcolumn =>
        rw [readLines?_of_number hcolumn, readColumns?_of_point hcolumn,
          readPoint?_point hpath hline hcolumn, Option.none_or, Option.none_or]
    | columns hpath hline hcolumn hlast =>
        rw [readLines?_of_number hlast, readColumns?_columns hpath hline hcolumn hlast,
          Option.none_or, Option.some_or]
    | lines hpath hstartLine hstartColumn hendLine hendColumn =>
        rw [readLines?_lines hpath hstartLine hstartColumn hendLine hendColumn, Option.some_or]

/-!
## What spells a span
-/

theorem Spells.isPath
    {text : Text} {s : Span} (h : Spells text s) :
    IsPath s.path := by
  cases h with
  | point hpath => exact hpath
  | columns hpath => exact hpath
  | lines hpath => exact hpath

theorem Spells.path_isPrefix
    {text : Text} {s : Span} (h : Spells text s) :
    s.path <+: text := by
  cases h with
  | point =>
      simp only [List.append_assoc]
      exact List.prefix_append _ _
  | columns =>
      simp only [List.append_assoc]
      exact List.prefix_append _ _
  | lines =>
      simp only [List.append_assoc]
      exact List.prefix_append _ _

theorem Spells.ne_nil
    {text : Text} {s : Span} (h : Spells text s) :
    text ≠ [] := by
  intro hnil
  have hpath := h.path_isPrefix
  rw [hnil, List.prefix_nil] at hpath
  exact h.isPath.ne_nil hpath

/-- Behind the path there are numbers only, none of which has a sign. -/
theorem Spells.nonneg
    {text : Text} {s : Span} (h : Spells text s) :
    0 ≤ s.startLine ∧ 0 ≤ s.startColumn ∧ 0 ≤ s.endLine ∧ 0 ≤ s.endColumn := by
  cases h with
  | point hpath hline hcolumn =>
      have hline := Numeral.nonneg_of_word? hline
      have hcolumn := Numeral.nonneg_of_word? hcolumn
      exact ⟨hline, hcolumn, hline, hcolumn⟩
  | columns hpath hline hcolumn hlast =>
      have hline := Numeral.nonneg_of_word? hline
      exact ⟨hline, Numeral.nonneg_of_word? hcolumn, hline, Numeral.nonneg_of_word? hlast⟩
  | lines hpath hstartLine hstartColumn hendLine hendColumn =>
      exact ⟨Numeral.nonneg_of_word? hstartLine, Numeral.nonneg_of_word? hstartColumn,
        Numeral.nonneg_of_word? hendLine, Numeral.nonneg_of_word? hendColumn⟩

theorem Spells.startsBlank_reverse
    {text : Text} {s : Span} (h : Spells text s) :
    Text.startsBlank text.reverse = false := by
  have hnumber : ∀ (front : Text) {digits : Text} {n : Int32},
      Numeral.word? digits = some n → Text.startsBlank (front ++ digits).reverse = false := by
    intro front digits n hdigits
    rcases Numeral.exists_concat_of_word? hdigits with ⟨init, c, rfl, hc⟩
    rw [← List.append_assoc, List.reverse_concat]
    exact Numeral.isBlank_of_isDigit hc
  cases h with
  | point hpath hline hcolumn => exact hnumber _ hcolumn
  | columns hpath hline hcolumn hlast => exact hnumber _ hlast
  | lines =>
      rw [List.reverse_concat]
      rfl

theorem Spells.newline_notMem
    {text : Text} {s : Span} (h : Spells text s) :
    '\n' ∉ text := by
  have hnumber : ∀ {digits : Text} {n : Int32}, Numeral.word? digits = some n → '\n' ∉ digits := by
    intro digits n hdigits hmem
    have hdigit := (Numeral.word?_eq_some_iff.mp hdigits).2.1 _ hmem
    cases hdigit
  cases h with
  | point hpath hline hcolumn =>
      simp [hpath.newline_notMem, hnumber hline, hnumber hcolumn]
  | columns hpath hline hcolumn hlast =>
      simp [hpath.newline_notMem, hnumber hline, hnumber hcolumn, hnumber hlast]
  | lines hpath hstartLine hstartColumn hendLine hendColumn =>
      simp [hpath.newline_notMem, hnumber hstartLine, hnumber hstartColumn, hnumber hendLine,
        hnumber hendColumn]

theorem Spells.trim_eq
    {text : Text} {s : Span} (h : Spells text s) (hpath : Text.startsBlank s.path = false) :
    Text.trim text = text := by
  rcases h.path_isPrefix with ⟨rest, hrest⟩
  apply Text.trim_eq_self _ h.startsBlank_reverse
  rw [← hrest, Text.startsBlank_append h.isPath.ne_nil]
  exact hpath

/-!
## Printable spans
-/

/-- A span as ghci prints one: its path can stand at the front of a text, and its
numbers have no sign. -/
structure IsPrintable (s : Span) : Prop where
  path : IsPath s.path
  path_start : Text.startsBlank s.path = false
  startLine_nonneg : 0 ≤ s.startLine
  startColumn_nonneg : 0 ≤ s.startColumn
  endLine_nonneg : 0 ≤ s.endLine
  endColumn_nonneg : 0 ≤ s.endColumn

theorem IsPrintable.spells_render
    {s : Span} (h : s.IsPrintable) :
    Spells s.render s := by
  have hstartLine := word?_number h.startLine_nonneg
  have hstartColumn := word?_number h.startColumn_nonneg
  have hendLine := word?_number h.endLine_nonneg
  have hendColumn := word?_number h.endColumn_nonneg
  have hpath := h.path
  rcases s with ⟨path, l, c, m, e⟩
  by_cases hlines : l = m
  · cases hlines
    by_cases hcolumns : c = e
    · cases hcolumns
      rw [render, if_pos rfl, if_pos rfl]
      simpa only [List.append_assoc, List.cons_append, List.nil_append] using
        Spells.point hpath hstartLine hstartColumn
    · rw [render, if_pos rfl, if_neg hcolumns]
      simpa only [List.append_assoc, List.cons_append, List.nil_append] using
        Spells.columns hpath hstartLine hstartColumn hendColumn
  · rw [render, if_neg hlines]
    simpa only [List.append_assoc, List.cons_append, List.nil_append] using
      Spells.lines hpath hstartLine hstartColumn hendLine hendColumn

theorem IsPrintable.read?_render
    {s : Span} (h : s.IsPrintable) :
    read? s.render = some s := by
  have hspells := h.spells_render
  rw [read?_eq_some_iff, hspells.trim_eq h.path_start]
  exact hspells

theorem isPrintable_of_read?
    {text : Text} {s : Span} (h : read? text = some s) :
    s.IsPrintable := by
  have hspells := read?_eq_some_iff.mp h
  rcases hspells.path_isPrefix with ⟨rest, hrest⟩
  have hstart : Text.startsBlank s.path = false := by
    rw [← Text.startsBlank_append hspells.isPath.ne_nil rest, hrest]
    exact Text.startsBlank_trim text
  rcases hspells.nonneg with ⟨hstartLine, hstartColumn, hendLine, hendColumn⟩
  exact ⟨hspells.isPath, hstart, hstartLine, hstartColumn, hendLine, hendColumn⟩

/-- Reading takes back the rendering of the printable spans and of no others, and all
that is ever read is printable. -/
theorem printable_read_back :
    (∀ s : Span, s.IsPrintable → read? s.render = some s) ∧
      (∀ (text : Text) (s : Span), read? text = some s →
        s.IsPrintable ∧ read? s.render = some s) ∧
      (∀ s : Span, ¬ s.IsPrintable → read? s.render ≠ some s) := by
  refine ⟨fun s h => h.read?_render, ?_, ?_⟩
  · intro text s h
    have hprintable := isPrintable_of_read? h
    exact ⟨hprintable, hprintable.read?_render⟩
  · intro s hnot hread
    exact hnot (isPrintable_of_read? hread)

example :
    read? (Span.mk "C:\\a:1:2:(3,4)-(5,6)".toList 7 8 9 10).render =
      some (Span.mk "C:\\a:1:2:(3,4)-(5,6)".toList 7 8 9 10) := by
  decide +kernel

end Span
end GhciBridge
