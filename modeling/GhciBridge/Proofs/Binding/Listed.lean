import GhciBridge.Proofs.Binding.Legible
import GhciBridge.Proofs.Answer.Readings
import GhciBridge.Proofs.Diagnostic.Error

/-!
# Listed bindings

Ghci wraps the text of a binding at spaces onto indented lines.  Reading an entry
puts the words of its lines together again, so it does not matter where the text was
broken: a text in which single spaces stand between the words comes back as it was.
-/

namespace GhciBridge

/-!
## Wrapped texts
-/

namespace Entry

/-- The lines onto which a text is wrapped: it is broken at any of its spaces, and
every line but the first is indented. -/
inductive Wrapped : Text → List Text → Prop where
  | whole (text : Text) : Wrapped text [text]
  | broken (front indent : Text) {rest line : Text} {lines : List Text}
      (hindent : indent ≠ []) (hblank : Text.allBlank indent = true)
      (hrest : Wrapped rest (line :: lines)) :
      Wrapped (front ++ ' ' :: rest) (front :: (indent ++ line) :: lines)

theorem skipBlank_append
    {blanks : List Text} (hblanks : ∀ line ∈ blanks, Text.allBlank line = true) {line : Text}
    (hline : Text.allBlank line = false) (lines : List Text) :
    skipBlank (blanks ++ line :: lines) = line :: lines := by
  rw [skipBlank, List.dropWhile_append_of_pos hblanks, List.dropWhile_cons, hline]
  rfl

theorem continues_indented
    {indent line : Text} (hindent : indent ≠ []) (hblank : Text.allBlank indent = true)
    (hline : Text.Spaced line) :
    continues (indent ++ line) = true := by
  have hall := hline.not_allBlank
  rw [Text.allBlank] at hall
  rw [continues, Text.startsBlank_append hindent, Text.startsBlank_of_allBlank hindent hblank,
    Text.allBlank, List.all_append, hall, Bool.and_false]
  rfl

theorem continues_of_allBlank
    {line : Text} (h : Text.allBlank line = true) :
    continues line = false := by
  rw [continues, h]
  rfl

theorem continues_of_startsBlank
    {line : Text} (h : Text.startsBlank line = false) :
    continues line = false := by
  rw [continues, h, Bool.and_false]

namespace Wrapped

variable {text : Text} {lines : List Text}

/-- The text begins with the first line, and all other lines continue it. -/
theorem exists_cons
    (h : Wrapped text lines) (htext : Text.Spaced text) :
    ∃ first more, lines = first :: more ∧ Text.Spaced first ∧ first <+: text ∧
      ∀ line ∈ more, continues line = true := by
  induction h with
  | whole text => exact ⟨text, [], rfl, htext, List.prefix_rfl, List.forall_mem_nil _⟩
  | @broken front indent rest line lines hindent hblank hrest ih =>
      have hparts := htext.parts rfl
      rcases ih hparts.2 with ⟨first, more, hlines, hfirst, -, hmore⟩
      cases hlines
      refine ⟨front, (indent ++ line) :: lines, rfl, hparts.1, List.prefix_append front _, ?_⟩
      exact List.forall_mem_cons.mpr ⟨continues_indented hindent hblank hfirst, hmore⟩

theorem spaced_of_head?
    (h : Wrapped text lines) (htext : Text.Spaced text) {behind : List Text} {line : Text}
    (hline : (lines ++ behind).head? = some line) :
    Text.Spaced line := by
  rcases h.exists_cons htext with ⟨first, more, rfl, hfirst, -⟩
  have hsame : first = line := Option.some.inj hline
  exact hsame ▸ hfirst

theorem flatMap_words
    (h : Wrapped text lines) :
    lines.flatMap Text.words = Text.words text := by
  induction h with
  | whole text => exact List.flatMap_singleton ..
  | broken front indent hindent hblank hrest ih =>
      rw [List.flatMap_cons] at ih
      rw [List.flatMap_cons, List.flatMap_cons, Text.words_append_of_allBlank hblank, ih,
        Text.words_append_cons_of_blank (by decide)]

theorem join
    (h : Wrapped text lines) (htext : Text.Spaced text) :
    join lines = text := by
  rw [Entry.join, h.flatMap_words]
  exact htext.squeeze

/-- Behind blank lines, and in front of a line that does not continue it, a wrapped
text is taken as one entry. -/
theorem take?_append
    (h : Wrapped text lines) (htext : Text.Spaced text) {blanks behind : List Text}
    (hblanks : ∀ line ∈ blanks, Text.allBlank line = true)
    (hbehind : ∀ line, behind.head? = some line → continues line = false) :
    take? (skipBlank (blanks ++ lines ++ behind)) = some (text, behind) := by
  have hjoin := h.join htext
  rcases h.exists_cons htext with ⟨first, more, rfl, hfirst, -, hmore⟩
  have hskip : skipBlank (blanks ++ (first :: more) ++ behind) = first :: (more ++ behind) := by
    rw [List.append_assoc, List.cons_append]
    exact skipBlank_append hblanks hfirst.not_allBlank _
  have hspan := Text.takeWhile_append_of_stop hmore hbehind
  rw [hskip, take?, hspan.1, hspan.2, hjoin]

/-- Only the first line can report an error. -/
theorem isError_of_mem
    (h : Wrapped text lines) (htext : Text.Spaced text)
    (hfront : ∀ front, front <+: text → Diagnostic.isError front = false) :
    ∀ line ∈ lines, Diagnostic.isError line = false := by
  rcases h.exists_cons htext with ⟨first, more, rfl, -, hfirst, hmore⟩
  refine List.forall_mem_cons.mpr ⟨hfront first hfirst, fun line hline => ?_⟩
  have hcontinues := hmore line hline
  rw [continues, Bool.and_eq_true] at hcontinues
  exact Diagnostic.isError_of_startsBlank hcontinues.2

end Wrapped
end Entry

/-!
## Lists of bindings
-/

namespace Binding

/-- A legible binding whose type and value are words with single spaces in between. -/
structure Wrappable (b : Binding) : Prop extends Legible b where
  spacedType : ∀ type ∈ b.typeName, Text.Spaced type
  spacedValue : ∀ value ∈ b.value, Text.Spaced value

/-- The lines of a list of bindings: the text of each is wrapped somehow, and any
number of blank lines stands between two. -/
inductive Listed : List Binding → List Text → Prop where
  | nil : Listed [] []
  | single {b : Binding} {lines : List Text} (hlines : Entry.Wrapped b.render lines) :
      Listed [b] lines
  | more {b next : Binding} {bindings : List Binding} {lines blanks rest : List Text}
      (hlines : Entry.Wrapped b.render lines)
      (hblanks : ∀ line ∈ blanks, Text.allBlank line = true)
      (hrest : Listed (next :: bindings) rest) :
      Listed (b :: next :: bindings) (lines ++ blanks ++ rest)

namespace Wrappable

variable {b : Binding}

theorem read?_render
    (hb : b.Wrappable) :
    read? b.render = some b :=
  Binding.read?_render hb.toLegible (fun type htype => (hb.spacedType type htype).trim)
    fun value hvalue => (hb.spacedValue value hvalue).trim

theorem spaced_getD
    {value : Option Text} (hvalue : ∀ text ∈ value, Text.Spaced text) :
    Text.Spaced (value.getD ['_']) := by
  cases value with
  | none => exact .word (Text.isWord_singleton (by decide))
  | some text => exact hvalue text rfl

theorem spaced_render
    (hb : b.Wrappable) :
    Text.Spaced b.render := by
  rcases b with ⟨name, typeName, value⟩
  rcases hb with ⟨⟨⟨name, rfl, hname⟩, -⟩, htype, hvalue⟩
  have hshown : Text.Spaced ("=".toList ++ ' ' :: value.getD ['_']) :=
    .more (Text.isWord_singleton (by decide)) (spaced_getD hvalue)
  cases typeName with
  | none =>
      rw [render_untyped, List.append_assoc]
      exact .more hname.isWord hshown
  | some type =>
      have hcolons : Text.IsWord "::".toList := by decide
      rw [render_typed, List.append_assoc name, List.append_assoc type]
      exact .more hname.isWord (.more hcolons ((htype type rfl).append hshown))

end Wrappable

/-- Behind the name there is a mark, not a letter. -/
theorem Legible.exists_mark
    {b : Binding} (hb : b.Legible) :
    ∃ name mark rest, Text.IsWord name ∧ b.render = name ++ ' ' :: mark :: rest ∧
      mark.isAlpha = false := by
  rcases b with ⟨name, typeName, value⟩
  rcases hb with ⟨⟨name, rfl, hname⟩, -⟩
  cases typeName with
  | none =>
      refine ⟨name, '=', ' ' :: value.getD ['_'], hname.isWord, ?_, by decide⟩
      rw [render_untyped, List.append_assoc]
      rfl
  | some type =>
      refine ⟨name, ':', ": ".toList ++ (type ++ equals ++ value.getD ['_']), hname.isWord, ?_,
        by decide⟩
      rw [render_typed, List.append_assoc name]
      rfl

theorem Legible.not_isError
    {b : Binding} (hb : b.Legible) {line : Text} (hline : line <+: b.render) :
    Diagnostic.isError line = false := by
  rcases hb.exists_mark with ⟨name, mark, rest, hname, hrender, hmark⟩
  rcases hline with ⟨behind, hbehind⟩
  cases herror : Diagnostic.isError line with
  | false => rfl
  | true =>
      rcases Diagnostic.exists_letter_of_isError herror with
        ⟨word, letter, more, hword, rfl, hletter⟩
      rw [hrender, List.append_assoc] at hbehind
      rcases Text.cut_of_solid hword hbehind with ⟨-, hsame⟩ | ⟨inside, hinside, -⟩
      · cases hsame
        rw [hmark] at hletter
        cases hletter
      · have hspace := hname.solid ' ' (by simp [hinside])
        cases hspace

theorem Wrappable.isError_of_wrapped
    {b : Binding} (hb : b.Wrappable) {lines : List Text} (hlines : Entry.Wrapped b.render lines) :
    ∀ line ∈ lines, Diagnostic.isError line = false :=
  hlines.isError_of_mem hb.spaced_render fun _ hfront => hb.not_isError hfront

namespace Listed

variable {bindings : List Binding} {lines : List Text}

theorem isError_of_mem
    (h : Listed bindings lines) (hbindings : ∀ b ∈ bindings, b.Wrappable) :
    ∀ line ∈ lines, Diagnostic.isError line = false := by
  induction h with
  | nil => exact List.forall_mem_nil _
  | single hlines => exact (hbindings _ List.mem_cons_self).isError_of_wrapped hlines
  | more hlines hblanks hrest ih =>
      rw [List.forall_mem_cons] at hbindings
      rw [List.forall_mem_append, List.forall_mem_append]
      refine ⟨⟨hbindings.1.isError_of_wrapped hlines, fun line hline => ?_⟩, ih hbindings.2⟩
      exact Diagnostic.isError_of_allBlank (hblanks line hline)

theorem spaced_of_head?
    (h : Listed bindings lines) (hbindings : ∀ b ∈ bindings, b.Wrappable) {line : Text}
    (hline : lines.head? = some line) :
    Text.Spaced line := by
  cases h with
  | nil => cases hline
  | single hlines =>
      rw [← List.append_nil lines] at hline
      exact hlines.spaced_of_head? (hbindings _ List.mem_cons_self).spaced_render hline
  | more hlines hblanks hrest =>
      rw [List.append_assoc] at hline
      exact hlines.spaced_of_head? (hbindings _ List.mem_cons_self).spaced_render hline

theorem readAll_append
    (h : Listed bindings lines) (hbindings : ∀ b ∈ bindings, b.Wrappable) (hne : bindings ≠ [])
    {blanks : List Text} (hblanks : ∀ line ∈ blanks, Text.allBlank line = true) :
    readAll (blanks ++ lines) = (bindings, []) := by
  induction h generalizing blanks with
  | nil => exact absurd rfl hne
  | single hlines =>
      have hb := hbindings _ List.mem_cons_self
      have hend : ∀ line, [].head? = some line → Entry.continues line = false :=
        fun line hline => nomatch hline
      have htake := hlines.take?_append hb.spaced_render hblanks hend
      rw [List.append_nil] at htake
      rw [Buffer.readAll_of_some htake, hb.read?_render, Buffer.readAll_of_none rfl]
  | @more b next bindings lines gap rest hlines hgap hrest ih =>
      rw [List.forall_mem_cons] at hbindings
      have hb := hbindings.1
      have hend : ∀ line, (gap ++ rest).head? = some line → Entry.continues line = false := by
        intro line hline
        cases gap with
        | nil =>
            have hline := hrest.spaced_of_head? hbindings.2 hline
            exact Entry.continues_of_startsBlank hline.startsBlank
        | cons blank gap =>
            have hsame : blank = line := Option.some.inj hline
            exact Entry.continues_of_allBlank (hsame ▸ hgap blank List.mem_cons_self)
      have htake := hlines.take?_append hb.spaced_render hblanks hend
      have hbehind := ih hbindings.2 (List.cons_ne_nil next bindings) hgap
      rw [List.append_assoc lines, ← List.append_assoc, Buffer.readAll_of_some htake,
        hb.read?_render, hbehind]

theorem skipBlank_eq
    (h : Listed bindings lines) (hbindings : ∀ b ∈ bindings, b.Wrappable) :
    Entry.skipBlank lines = lines := by
  cases lines with
  | nil => rfl
  | cons line lines =>
      have hline : Text.Spaced line := h.spaced_of_head? hbindings rfl
      rw [Entry.skipBlank, List.dropWhile_cons, hline.not_allBlank]
      rfl

theorem readAll_eq
    (h : Listed bindings lines) (hbindings : ∀ b ∈ bindings, b.Wrappable) :
    readAll lines = (bindings, []) := by
  cases bindings with
  | nil =>
      cases h
      exact Buffer.readAll_of_none rfl
  | cons b bindings =>
      exact h.readAll_append hbindings (List.cons_ne_nil b bindings) (List.forall_mem_nil _)

end Listed
end Binding

namespace Answer

/-- Bindings are read back from a list of them, wherever their texts were broken, and
nothing of the list is left. -/
theorem wrapped_bindings_read_back
    {bindings : List Binding} {lines : List Text} (hbindings : ∀ b ∈ bindings, b.Wrappable)
    (hlines : Binding.Listed bindings lines) :
    bindings? lines = some (.bindingList bindings, []) ∧
      Buffer.bindings.on lines = some (some (.bindingList bindings), []) := by
  have hread : bindings? lines = some (.bindingList bindings, []) := by
    have herror : Diagnostic.anyError lines = false :=
      List.any_eq_false.mpr fun line hline =>
        ne_true_of_eq_false (hlines.isError_of_mem hbindings line hline)
    rw [bindings?, herror, hlines.skipBlank_eq hbindings, hlines.readAll_eq hbindings,
      if_neg Bool.false_ne_true]
    exact if_neg fun h => h.1 rfl
  have hsettles := Buffer.Reading.settles .bindings lines
  cases hsettles with
  | nothing hreader =>
      have hnone := hreader.symm.trans hread
      cases hnone
  | taken front rest hreader hbuffer =>
      have hsame := hreader.symm.trans hread
      cases hsame
      exact ⟨hread, hbuffer⟩

/-- A break in front of ` :: `, one behind ` = ` and one inside of a type. -/
theorem broken_at_separators_read_back :
    bindings? [
        "xs".toList, "  :: [Int] =".toList, "   [1, 2]".toList, [], " ".toList,
        "go :: Int".toList, "  -> Int = _".toList,
        "n = a = b".toList] =
      some (.bindingList [
        ⟨some "xs".toList, some "[Int]".toList, some "[1, 2]".toList⟩,
        ⟨some "go".toList, some "Int -> Int".toList, none⟩,
        ⟨some "n".toList, none, some "a = b".toList⟩], []) := by
  have hxs : Entry.Wrapped
      (Binding.render ⟨some "xs".toList, some "[Int]".toList, some "[1, 2]".toList⟩)
      ["xs".toList, "  :: [Int] =".toList, "   [1, 2]".toList] :=
    .broken "xs".toList "  ".toList (by decide) (by decide) <|
      .broken ":: [Int] =".toList "   ".toList (by decide) (by decide) <|
        .whole "[1, 2]".toList
  have hgo : Entry.Wrapped
      (Binding.render ⟨some "go".toList, some "Int -> Int".toList, none⟩)
      ["go :: Int".toList, "  -> Int = _".toList] :=
    .broken "go :: Int".toList "  ".toList (by decide) (by decide) <| .whole "-> Int = _".toList
  have hn : Entry.Wrapped
      (Binding.render ⟨some "n".toList, none, some "a = b".toList⟩) ["n = a = b".toList] :=
    .whole "n = a = b".toList
  have hgap : ∀ line ∈ [[], " ".toList], Text.allBlank line = true := by decide
  have hlisted := Binding.Listed.more hxs hgap <|
    .more hgo (List.forall_mem_nil _) <| .single hn
  apply And.left
  apply wrapped_bindings_read_back _ hlisted
  rw [List.forall_mem_cons, List.forall_mem_cons, List.forall_mem_singleton]
  refine ⟨?typed, ?unevaluated, ?untyped⟩
  case typed =>
    refine ⟨⟨⟨_, rfl, by decide⟩, ?_, ?_, nofun⟩, ?_, ?_⟩
    all_goals
      rintro _ ⟨⟩
      decide +kernel
  case unevaluated =>
    refine ⟨⟨⟨_, rfl, by decide⟩, ?_, nofun, nofun⟩, ?_, nofun⟩
    all_goals
      rintro _ ⟨⟩
      decide +kernel
  case untyped =>
    refine ⟨⟨⟨_, rfl, by decide⟩, nofun, ?_, fun _ => ?_⟩, nofun, ?_⟩
    all_goals
      rintro _ ⟨⟩
      decide +kernel

end Answer
end GhciBridge
