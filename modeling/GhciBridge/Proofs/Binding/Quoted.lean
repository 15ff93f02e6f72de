import GhciBridge.Proofs.Binding.Listed
import GhciBridge.Proofs.Literal.Shown
import GhciBridge.Proofs.Span.Layout
import GhciBridge.Proofs.Text.Squeeze

/-!
# Quoted values

The text of an entry is put together from its words, and the words of a quoted value
are no exception.  So a string comes back with each run of spaces collapsed to a
single space, and comes back as it is exactly if no two spaces stand side by side in
it.  Everything else between the quotes stays.
-/

namespace GhciBridge

/-!
## Quoted texts
-/

namespace Literal

theorem solid_controlEscape
    {c : Char} (hc : isControl c = true) :
    ∀ d ∈ controlEscape c, Text.isBlank d = false := by
  have hall : (controls.all fun c => (controlEscape c).all fun d => !Text.isBlank d) = true := by
    decide +kernel
  have hescape := List.all_eq_true.mp hall c (mem_controls hc)
  rw [List.all_eq_true] at hescape
  intro d hd
  exact Bool.not_eq_true' .. ▸ hescape d hd

theorem exists_guarded
    (p : Char → Bool) (rest : Text) :
    ∃ mark : Text, (∀ c ∈ mark, Text.isBlank c = false) ∧
      ∀ other, other.head? = rest.head? → guarded p other = mark ++ other := by
  cases hguard : rest.head?.any p with
  | true =>
      refine ⟨['\\', '&'], ?_, fun other hother => ?_⟩
      · rw [List.forall_mem_cons, List.forall_mem_singleton]
        exact ⟨by decide, by decide⟩
      · rw [guarded, hother, hguard]
        rfl
  | false =>
      refine ⟨[], List.forall_mem_nil _, fun other hother => ?_⟩
      rw [guarded, hother, hguard]
      rfl

theorem isBlank_of_not_isControl
    {c : Char} (hcontrol : isControl c = false) (hlow : c.toNat < 0x7F) (hc : c ≠ ' ') :
    Text.isBlank c = false := by
  have hspace : c.toNat ≠ 0x20 := fun h => hc (Char.toNat_inj.mp h)
  simp only [isControl, Bool.or_eq_false_iff, decide_eq_false_iff_not, beq_eq_false_iff_ne]
    at hcontrol
  simp only [Text.isBlank, Bool.or_eq_false_iff, Bool.and_eq_false_iff,
    decide_eq_false_iff_not, beq_eq_false_iff_ne]
  omega

/-- Any other character than a space is shown without blanks, and only the character
behind it can make a difference. -/
theorem exists_shownChar
    {c : Char} (hc : c ≠ ' ') (rest : Text) :
    ∃ front : Text, (∀ d ∈ front, Text.isBlank d = false) ∧
      ∀ other, other.head? = rest.head? → shownChar c other = front ++ other := by
  have hbackslash : Text.isBlank '\\' = false := by decide
  by_cases hspecial : c = '"' ∨ c = '\\'
  · refine ⟨['\\', c], ?_, fun other _ => if_pos hspecial⟩
    rw [List.forall_mem_cons, List.forall_mem_singleton]
    rcases hspecial with rfl | rfl
    · exact ⟨hbackslash, by decide⟩
    · exact ⟨hbackslash, hbackslash⟩
  cases hcontrol : isControl c with
  | true =>
      have hname := solid_controlEscape hcontrol
      have hbehind : ∃ mark : Text, (∀ d ∈ mark, Text.isBlank d = false) ∧
          ∀ other, other.head? = rest.head? → behindName c other = mark ++ other := by
        by_cases hso : c = '\x0E'
        · rcases exists_guarded (· == 'H') rest with ⟨mark, hmark, hguarded⟩
          exact ⟨mark, hmark, fun other hother => (if_pos hso).trans (hguarded other hother)⟩
        · exact ⟨[], List.forall_mem_nil _, fun other _ => if_neg hso⟩
      rcases hbehind with ⟨mark, hmark, hshown⟩
      refine ⟨'\\' :: (controlEscape c ++ mark), ?_, fun other hother => ?_⟩
      · exact List.forall_mem_cons.mpr ⟨hbackslash, List.forall_mem_append.mpr ⟨hname, hmark⟩⟩
      · rw [shownChar, if_neg hspecial, if_pos hcontrol, hshown other hother,
          List.cons_append, List.append_assoc]
  | false =>
      by_cases hlow : c.toNat < 0x7F
      · refine ⟨[c], List.forall_mem_singleton.mpr ?_, fun other _ => ?_⟩
        · exact isBlank_of_not_isControl hcontrol hlow hc
        · rw [shownChar, if_neg hspecial, hcontrol, if_neg Bool.false_ne_true, if_pos hlow]
          rfl
      · have hdigits : ∀ d ∈ Text.ofNat c.toNat, Text.isBlank d = false := by
          intro d hd
          apply Numeral.isBlank_of_isDigit
          exact Nat.isDigit_of_mem_toDigits (by decide) (by decide) hd
        rcases exists_guarded Char.isDigit rest with ⟨mark, hmark, hguarded⟩
        refine ⟨'\\' :: (Text.ofNat c.toNat ++ mark), ?_, fun other hother => ?_⟩
        · exact List.forall_mem_cons.mpr
            ⟨hbackslash, List.forall_mem_append.mpr ⟨hdigits, hmark⟩⟩
        · rw [shownChar, if_neg hspecial, hcontrol, if_neg Bool.false_ne_true, if_neg hlow,
            hguarded other hother, List.cons_append, List.append_assoc]

theorem shownChar_space
    (rest : Text) :
    shownChar ' ' rest = ' ' :: rest :=
  shownChar_of_plain (by decide) rest

theorem eq_space_of_mem_shownBody
    (text : Text) :
    ∀ c ∈ shownBody text, Text.isBlank c = true → c = ' ' := by
  induction text with
  | nil => exact List.forall_mem_nil _
  | cons c text ih =>
      rw [shownBody]
      by_cases hc : c = ' '
      · rw [hc, shownChar_space]
        exact List.forall_mem_cons.mpr ⟨fun _ => rfl, ih⟩
      · rcases exists_shownChar hc (shownBody text) with ⟨front, hfront, hshown⟩
        rw [hshown _ rfl, List.forall_mem_append]
        refine ⟨fun d hd hblank => ?_, ih⟩
        rw [hfront d hd] at hblank
        cases hblank

theorem head?_shownBody_eq_space_iff
    (text : Text) :
    (shownBody text).head? = some ' ' ↔ text.head? = some ' ' := by
  have hspace : ∀ d, (d == ' ') = true → isPlain d = true := by
    intro d hd
    rw [beq_iff_eq.mp hd]
    decide
  have hany_iff : ∀ first : Option Char, first.any (· == ' ') = true ↔ first = some ' ' := by
    intro first
    cases first with
    | none => simp
    | some d => simp
  rw [← hany_iff, ← hany_iff, any_head?_shownBody hspace]

/-- A string with single spaces is shown as its literal with single spaces. -/
theorem collapse_shownBody
    (text : Text) :
    Text.collapse (shownBody text) = shownBody (Text.collapse text) := by
  induction text with
  | nil => rfl
  | cons c text ih =>
      have hhead : (shownBody (Text.collapse text)).head? = (shownBody text).head? := by
        rw [← ih, Text.head?_collapse]
      rw [shownBody]
      by_cases hc : c = ' '
      · subst hc
        rw [shownChar_space]
        by_cases hrun : text.head? = some ' '
        · rw [Text.collapse_space_of_head? hrun,
            Text.collapse_space_of_head? ((head?_shownBody_eq_space_iff text).mpr hrun), ih]
        · rw [Text.collapse_space_of_head?_ne hrun, shownBody, shownChar_space,
            Text.collapse_space_of_head?_ne fun h =>
              hrun ((head?_shownBody_eq_space_iff text).mp h), ih]
      · -- collapsing keeps the first character, so the same escapes are set off
        rcases exists_shownChar hc (shownBody text) with ⟨front, hfront, hshown⟩
        rw [hshown _ rfl, Text.collapse_append_of_solid hfront, ih, Text.collapse,
          if_neg fun h => hc h.1, shownBody, hshown _ hhead]

theorem collapse_shownBody_eq_self_iff
    (text : Text) :
    Text.collapse (shownBody text) = shownBody text ↔ Text.collapse text = text := by
  induction text with
  | nil => exact Iff.rfl
  | cons c text ih =>
      rw [shownBody]
      by_cases hc : c = ' '
      · subst hc
        rw [shownChar_space]
        by_cases hrun : text.head? = some ' '
        · rw [Text.collapse_space_of_head? hrun,
            Text.collapse_space_of_head? ((head?_shownBody_eq_space_iff text).mpr hrun)]
          exact iff_of_false (Text.collapse_ne_cons ' ' _) (Text.collapse_ne_cons ' ' _)
        · rw [Text.collapse_space_of_head?_ne hrun, Text.collapse_space_of_head?_ne fun h =>
              hrun ((head?_shownBody_eq_space_iff text).mp h),
            List.cons_inj_right, List.cons_inj_right]
          exact ih
      · rcases exists_shownChar hc (shownBody text) with ⟨front, hfront, hshown⟩
        rw [hshown _ rfl, Text.collapse_append_of_solid hfront, List.append_right_inj, ih,
          Text.collapse, if_neg fun h => hc h.1, List.cons_inj_right]

theorem squeeze_shown
    (text : Text) :
    Text.squeeze (shown text) = shown (Text.collapse text) := by
  have hquote : Text.isBlank '"' = false := by decide
  have hspace : ∀ c ∈ shown text, Text.isBlank c = true → c = ' ' := by
    rw [shown, List.forall_mem_cons, List.forall_mem_append, List.forall_mem_singleton]
    have hnot : Text.isBlank '"' = true → '"' = ' ' := fun h => by cases h
    exact ⟨hnot, eq_space_of_mem_shownBody text, hnot⟩
  have hlast : ∀ c, (shown text).getLast? = some c → Text.isBlank c = false := by
    intro c hc
    rw [shown, ← List.cons_append, List.getLast?_concat] at hc
    cases hc
    exact hquote
  rw [Text.squeeze_eq_collapse rfl hspace hlast, shown, shown, ← collapse_shownBody,
    Text.collapse_cons_of_solid hquote, Text.collapse_concat_of_solid hquote]

/-- A literal is squeezed to itself exactly if no two spaces stand side by side in the
string. -/
theorem squeeze_shown_eq_self_iff
    (text : Text) :
    Text.squeeze (shown text) = shown text ↔ ¬ "  ".toList <:+: text := by
  rw [squeeze_shown, shown, shown, List.cons_inj_right, List.append_left_inj,
    ← collapse_shownBody, collapse_shownBody_eq_self_iff, Text.collapse_eq_self_iff]

theorem isReadable_collapse
    (text : Text) :
    isReadable (Text.collapse text) = isReadable text := by
  induction text with
  | nil => rfl
  | cons c text ih =>
      rw [Text.collapse]
      split
      · next hrun =>
          have hspace : isMisread ' ' text.head? = false := rfl
          rw [ih, isReadable, hrun.1, hspace]
          rfl
      · rw [isReadable, isReadable, Text.head?_collapse, ih]

end Literal

/-!
## Bindings with a quoted value
-/

namespace Binding

theorem legible_of_typed
    {name type value : Text} (hname : IsVariable name) (hinside : ¬ equals <:+: type)
    (hend : ¬ " =".toList <:+ type) (hvalue : value ≠ ['_']) :
    Legible ⟨some name, some type, some value⟩ where
  named := ⟨name, rfl, hname⟩
  type := by
    rintro _ ⟨⟩
    exact ⟨hinside, hend⟩
  value := by
    rintro _ ⟨⟩
    exact hvalue
  untyped := nofun

end Binding

namespace Answer

theorem on_bindings_of_bindings?
    {lines rest : List Text} {answer : Answer} (h : bindings? lines = some (answer, rest)) :
    Buffer.bindings.on lines = some (some answer, rest) :=
  Buffer.Reading.on_of_reader .bindings h

/-- A line on its own is an entry, and its text has the words of the line. -/
theorem bindings?_line
    {line : Text} {b : Binding} (hwords : Text.words line ≠ [])
    (herror : Diagnostic.isError line = false)
    (hread : Binding.read? (Text.squeeze line) = some b) :
    bindings? [line] = some (.bindingList [b], []) := by
  have hany : Diagnostic.anyError [line] = false :=
    Diagnostic.anyError_eq_false (List.forall_mem_singleton.mpr herror)
  have hskip : Entry.skipBlank [line] = [line] := by
    rw [Entry.skipBlank, List.dropWhile_cons, Text.not_allBlank_of_words hwords]
    rfl
  have htake : Entry.take? (Entry.skipBlank [line]) = some (Text.squeeze line, []) := by
    rw [hskip, Entry.take?, List.takeWhile_nil, List.dropWhile_nil, Entry.join,
      List.flatMap_singleton]
    rfl
  have hreadAll : Binding.readAll [line] = ([b], []) := by
    rw [Buffer.readAll_of_some htake, hread, Buffer.readAll_of_none rfl]
  rw [bindings?, hany, hskip, hreadAll, if_neg Bool.false_ne_true]
  exact if_neg fun h => h.1 rfl

/-- On a line of its own a typed binding is read with the words of its value. -/
theorem bindings?_typed_line
    {name type value : Text} (hname : IsVariable name) (htype : Text.Spaced type)
    (hinside : ¬ Binding.equals <:+: type) (hend : ¬ " =".toList <:+ type)
    (hwords : Text.words value ≠ []) (hthunk : Text.squeeze value ≠ ['_']) :
    bindings? [name ++ Annotation.separator ++ type ++ Binding.equals ++ value] =
      some (.bindingList [⟨some name, some type, some (Text.squeeze value)⟩], []) := by
  have hrender : ∀ shown, Binding.render ⟨some name, some type, some shown⟩ =
      name ++ Annotation.separator ++ type ++ Binding.equals ++ shown := by
    intro shown
    rw [Binding.render_typed, Option.getD_some]
    simp only [List.append_assoc]
  have hcut : ∀ shown, name ++ Annotation.separator ++ type ++ Binding.equals ++ shown =
      name ++ Annotation.separator ++ type ++ " =".toList ++ ' ' :: shown := by
    intro shown
    rw [List.append_assoc _ Binding.equals, List.append_assoc _ " =".toList]
    rfl
  have hfront : Text.Spaced (name ++ Annotation.separator ++ type ++ " =".toList) := by
    have hcolons : Text.IsWord "::".toList := by decide
    have hequals : Text.Spaced "=".toList := .word (Text.isWord_singleton (by decide))
    rw [List.append_assoc, List.append_assoc]
    exact .more hname.isWord (.more hcolons (htype.append hequals))
  apply bindings?_line
  · rw [hcut, Text.words_append_cons_of_blank (by decide)]
    exact List.append_ne_nil_of_left_ne_nil hfront.words_ne_nil _
  · have hvalue : value ≠ ['_'] := by
      rintro rfl
      exact hthunk (by decide)
    have hlegible := Binding.legible_of_typed hname hinside hend hvalue
    apply hlegible.not_isError
    rw [hrender]
  · rw [hcut, hfront.squeeze_append hwords, ← hcut, ← hrender]
    apply Binding.read?_render (Binding.legible_of_typed hname hinside hend hthunk)
    · rintro _ ⟨⟩
      exact htype.trim
    · rintro _ ⟨⟩
      exact (Text.spaced_squeeze hwords).trim

/-- A quoted value is reported with its words set apart by single spaces.  So a string
comes back from its literal with each run of spaces collapsed. -/
theorem quoted_value_squeezed
    {name type : Text} (hname : IsVariable name) (htype : Text.Spaced type)
    (hinside : ¬ Binding.equals <:+: type) (hend : ¬ " =".toList <:+ type) (body : Text) :
    let value := Literal.quoted body
    let line := name ++ Annotation.separator ++ type ++ Binding.equals ++ value
    let reported := Text.squeeze value
    bindings? [line] = some (.bindingList [⟨some name, some type, some reported⟩], []) ∧
      Buffer.bindings.on [line] =
        some (some (.bindingList [⟨some name, some type, some reported⟩]), []) ∧
      (reported = value ↔ Text.Spaced value) ∧
      ∀ text, value = Literal.shown text →
        (reported = value ↔ ¬ "  ".toList <:+: text) ∧
        Literal.decode? reported =
          (if Literal.isReadable text then some (Text.collapse text) else none) ∧
        (Literal.decode? reported = some text ↔
          Literal.isReadable text = true ∧ ¬ "  ".toList <:+: text) := by
  intro value line reported
  have hwords : Text.words value ≠ [] := Text.words_cons_ne_nil (by decide) _
  have hthunk : reported ≠ ['_'] := by
    intro hreported
    have hhead : reported.head? = some '"' := Text.head?_squeeze (by decide) _
    rw [hreported] at hhead
    cases hhead
  have hread := bindings?_typed_line hname htype hinside hend hwords hthunk
  refine ⟨hread, on_bindings_of_bindings? hread, ?_, ?_⟩
  · rw [Text.spaced_iff]
    exact (and_iff_right (List.cons_ne_nil _ _)).symm
  · intro text htext
    have hsame : reported = value ↔ ¬ "  ".toList <:+: text := by
      rw [← Literal.squeeze_shown_eq_self_iff, ← htext]
    have hdecode : Literal.decode? reported =
        if Literal.isReadable text then some (Text.collapse text) else none := by
      rw [← Literal.isReadable_collapse, ← Literal.decode?_shown, ← Literal.squeeze_shown,
        ← htext]
    refine ⟨hsame, hdecode, ?_⟩
    rw [hdecode, ← Text.collapse_eq_self_iff]
    cases Literal.isReadable text with
    | false => simp
    | true => simp

/-- Separators, brackets, escapes and single spaces between the quotes come back. -/
theorem separators_in_quotes_kept :
    IsVariable "x_1".toList ∧ Text.Spaced "[Char] -> a".toList ∧
      ¬ Binding.equals <:+: "[Char] -> a".toList ∧ ¬ " =".toList <:+ "[Char] -> a".toList ∧
      let value := "\"a = b :: ) \\\" \\n\"".toList
      bindings? ["x_1 :: [Char] -> a = \"a = b :: ) \\\" \\n\"".toList] =
          some (.bindingList [⟨some "x_1".toList, some "[Char] -> a".toList, some value⟩], []) ∧
        Literal.decode? value = some "a = b :: ) \" \n".toList := by
  have hname : IsVariable "x_1".toList := by decide
  have htype : Text.Spaced "[Char] -> a".toList := by decide +kernel
  have hinside : ¬ Binding.equals <:+: "[Char] -> a".toList := by decide
  have hend : ¬ " =".toList <:+ "[Char] -> a".toList := by decide
  refine ⟨hname, htype, hinside, hend, ?_⟩
  intro value
  rcases quoted_value_squeezed hname htype hinside hend "a = b :: ) \\\" \\n".toList with
    ⟨hlist, -, -, hshown⟩
  rcases hshown "a = b :: ) \" \n".toList (by decide) with ⟨hverbatim, -, hdecode⟩
  rw [hverbatim.mpr (by decide)] at hlist hdecode
  exact ⟨hlist, hdecode.mpr (by decide)⟩

/-- The second of two spaces between the quotes is lost. -/
theorem second_space_lost :
    bindings? ["x :: String = \"a  b\"".toList] =
        some (.bindingList
          [⟨some "x".toList, some "String".toList, some "\"a b\"".toList⟩], []) ∧
      Literal.decode? "\"a  b\"".toList = some "a  b".toList ∧
      Literal.decode? "\"a b\"".toList = some "a b".toList := by
  have hname : IsVariable "x".toList := by decide
  have htype : Text.Spaced "String".toList := by decide +kernel
  have hsqueeze : Text.squeeze "\"a  b\"".toList = "\"a b\"".toList := by decide +kernel
  have hthunk : Text.squeeze "\"a  b\"".toList ≠ ['_'] := by
    rw [hsqueeze]
    decide
  have hread := bindings?_typed_line hname htype (by decide) (by decide) (by decide) hthunk
  rw [hsqueeze] at hread
  exact ⟨hread, Literal.decode?_shown "a  b".toList, Literal.decode?_shown "a b".toList⟩

end Answer
end GhciBridge
