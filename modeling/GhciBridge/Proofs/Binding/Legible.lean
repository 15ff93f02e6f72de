import GhciBridge.Binding
import GhciBridge.Proofs.Text.Search
import GhciBridge.Proofs.Text.Words

/-!
# Legible bindings

The text of a binding shows where its parts begin only by the separators between
them.  A binding is legible if no separator is found in front of its place: then its
text is read as the binding itself, whatever else stands in the type and the value.
-/

namespace GhciBridge

/-- The characters that change the nesting of a text. -/
def delimiters : List Char :=
  ['(', ')', '[', ']', '\x7b', '\x7d', '"']

/-- A name that opens no bracket and no string. -/
structure IsVariable (name : Text) : Prop where
  isWord : Text.IsWord name
  plain : ∀ c ∈ name, c ∉ delimiters

instance (name : Text) : Decidable (IsVariable name) :=
  decidable_of_iff (Text.IsWord name ∧ name.all (fun c => c ∉ delimiters) = true) <| by
    simp only [List.all_eq_true, decide_eq_true_eq]
    exact ⟨fun h => ⟨h.1, h.2⟩, fun h => ⟨h.isWord, h.plain⟩⟩

namespace Annotation

theorem step_start
    {c : Char} (hc : c ∉ delimiters) :
    Nesting.start.step c = .start := by
  simp only [delimiters, List.mem_cons, List.not_mem_nil, or_false, not_or] at hc
  simp [Nesting.step, Nesting.start, hc]

theorem split?_cons
    {c : Char} {text : Text} (hstep : Nesting.start.step c = .start)
    (hhead : ¬ separator <+: c :: text) :
    split? (c :: text) = (split? text).map fun cut => (c :: cut.1, cut.2) := by
  rw [split?, splitFrom?, Text.afterPrefix?_eq_none_iff.mpr hhead, ite_self, hstep]
  rfl

/-- The separator is not looked for inside of a name. -/
theorem split?_append_of_isVariable
    {name : Text} (hname : IsVariable name) (text : Text) :
    split? (name ++ text) = (split? text).map fun cut => (name ++ cut.1, cut.2) := by
  rcases hname with ⟨⟨-, hsolid⟩, hplain⟩
  induction name with
  | nil => simp
  | cons c name ih =>
      rw [List.forall_mem_cons] at hsolid hplain
      have hhead : ¬ separator <+: c :: (name ++ text) := by
        intro hprefix
        have hspace : ' ' = c := (List.cons_prefix_cons.mp hprefix).1
        rw [← hspace] at hsolid
        exact absurd hsolid.1 (by decide)
      rw [List.cons_append, split?_cons (step_start hplain.1) hhead, ih hplain.2 hsolid.2,
        Option.map_map]
      rfl

theorem split?_separator
    (text : Text) :
    split? (separator ++ text) = some ([], text) := by
  have hhead : Text.afterPrefix? separator (' ' :: (":: ".toList ++ text)) = some text :=
    Text.afterPrefix?_append separator text
  show splitFrom? .start (' ' :: (":: ".toList ++ text)) = some ([], text)
  rw [splitFrom?, hhead]
  rfl

/-- In ` = ` no separator begins but at the last space. -/
theorem split?_behind_equals_eq_none_iff
    {text : Text} :
    split? (' ' :: '=' :: ' ' :: text) = none ↔ split? (' ' :: text) = none := by
  have hspace : ¬ separator <+: ' ' :: '=' :: ' ' :: text := by
    intro h
    exact absurd (List.cons_prefix_cons.mp (List.cons_prefix_cons.mp h).2).1 (by decide)
  have hequals : ¬ separator <+: '=' :: ' ' :: text := by
    intro h
    exact absurd (List.cons_prefix_cons.mp h).1 (by decide)
  rw [split?_cons rfl hspace, split?_cons rfl hequals, Option.map_map, Option.map_eq_none_iff]

theorem splitFrom?_of_not_infix
    {text : Text} (h : ¬ separator <:+: text) (n : Nesting) :
    splitFrom? n text = none := by
  induction text generalizing n with
  | nil => rfl
  | cons c text ih =>
      rw [List.infix_cons_iff, not_or] at h
      rw [splitFrom?, Text.afterPrefix?_eq_none_iff.mpr h.1, ite_self, ih h.2]
      rfl

/-- Splitting loses nothing: the parts and the separator make up the text. -/
theorem eq_append_of_splitFrom?
    {n : Nesting} {text expression type : Text}
    (h : splitFrom? n text = some (expression, type)) :
    text = expression ++ separator ++ type := by
  induction text generalizing n expression with
  | nil => cases h
  | cons c text ih =>
      rw [splitFrom?] at h
      split at h
      · next type' hhead =>
          cases h
          rw [Option.ite_none_right_eq_some] at hhead
          exact Text.afterPrefix?_eq_some_iff.mp hhead.2
      · rcases Option.map_eq_some_iff.mp h with ⟨⟨front, behind⟩, hcut, hpair⟩
        cases hpair
        rw [ih hcut]
        rfl

end Annotation

namespace Binding

/-- What a binding has to fulfil for its separators to be found. -/
structure Legible (b : Binding) : Prop where
  named : ∃ name, b.name = some name ∧ IsVariable name
  type : ∀ type ∈ b.typeName, ¬ equals <:+: type ∧ ¬ " =".toList <:+ type
  value : ∀ value ∈ b.value, value ≠ ['_']
  untyped : b.typeName = none → ∀ value ∈ b.value, ¬ Annotation.separator <:+: ' ' :: value

theorem isName_of_isVariable
    {name : Text} (hname : IsVariable name) :
    isName name = true := by
  rw [isName, Bool.and_eq_true, decide_eq_true_eq, Bool.not_eq_true', List.any_eq_false]
  refine ⟨hname.isWord.nonempty, fun c hc => ?_⟩
  rw [hname.isWord.solid c hc]
  exact Bool.false_ne_true

theorem render_untyped
    (name : Text) (value : Option Text) :
    render ⟨some name, none, value⟩ = name ++ equals ++ value.getD ['_'] := by
  cases value <;> simp [render, Text.joinWords, equals, List.intercalate_cons_cons]

theorem render_typed
    (name type : Text) (value : Option Text) :
    render ⟨some name, some type, value⟩ =
      name ++ Annotation.separator ++ (type ++ equals ++ value.getD ['_']) := by
  cases value <;>
    simp [render, Text.joinWords, equals, Annotation.separator, List.intercalate_cons_cons]

/-- Behind a text that holds no ` = `, and is not about to, the next one is the
first. -/
theorem breakOn?_equals
    {front : Text} (hinside : ¬ equals <:+: front) (hend : ¬ " =".toList <:+ front) (rest : Text) :
    Text.breakOn? equals (front ++ equals ++ rest) = some (front, rest) :=
  Text.breakOn?_between_spaces (by decide : ' ' ∉ ['=']) hinside hend rest

theorem valueOf_shown
    {value : Option Text} (hthunk : ∀ text ∈ value, text ≠ ['_'])
    (htrim : ∀ text ∈ value, Text.trim text = text) :
    valueOf (value.getD ['_']) = value := by
  cases value with
  | none => rfl
  | some text =>
      rw [Option.getD_some, valueOf, htrim text rfl]
      exact if_neg (hthunk text rfl)

/-- A binding is named by the first word of its text, and a separator follows. -/
theorem exists_name_of_read?
    {text : Text} {b : Binding} (htext : Text.Spaced text) (h : read? text = some b) :
    ∃ name mark rest, b.name = some name ∧ Text.IsWord name ∧
      text = name ++ ' ' :: mark :: rest ∧ (mark = ':' ∨ mark = '=') := by
  have hname : ∀ name behind, text = name ++ ' ' :: behind → isName (Text.trim name) = true →
      Text.trim name = name ∧ Text.IsWord name := by
    intro name behind hsplit hisName
    have htrim := (htext.parts hsplit).1.trim
    rw [htrim, isName, Bool.and_eq_true, decide_eq_true_eq, Bool.not_eq_true',
      List.any_eq_false] at hisName
    exact ⟨htrim, hisName.1, fun c hc => Bool.eq_false_iff.mpr (hisName.2 c hc)⟩
  unfold read? at h
  split at h
  · next name type hsplit =>
      have hparts : text = name ++ ' ' :: ':' :: (": ".toList ++ type) := by
        have htext := Annotation.eq_append_of_splitFrom? hsplit
        rw [htext, List.append_assoc]
        rfl
      simp only at h
      split at h
      · next hisName =>
          rcases hname name _ hparts hisName with ⟨htrim, hword⟩
          refine ⟨name, ':', _, ?_, hword, hparts, .inl rfl⟩
          split at h
          · cases h
            exact congrArg some htrim
          · cases h
            exact congrArg some htrim
      · cases h
  · split at h
    · next name value hbreak =>
        have hparts : text = name ++ ' ' :: '=' :: (' ' :: value) := by
          rw [Text.eq_append_of_breakOn? hbreak, List.append_assoc]
          rfl
        simp only at h
        split at h
        · next hisName =>
            rcases hname name _ hparts hisName with ⟨htrim, hword⟩
            refine ⟨name, '=', _, ?_, hword, hparts, .inr rfl⟩
            cases h
            exact congrArg some htrim
        · cases h
    · cases h

/-!
## Reading the text of a binding
-/

theorem read?_render_typed
    {name type front behind : Text} {value : Option Text} (hname : IsVariable name)
    (hbreak : Text.breakOn? equals (type ++ equals ++ value.getD ['_']) = some (front, behind)) :
    read? (render ⟨some name, some type, value⟩) =
      some ⟨some name, some (Text.trim front), valueOf behind⟩ := by
  have hsplit : Annotation.split? (render ⟨some name, some type, value⟩) =
      some (name, type ++ equals ++ value.getD ['_']) := by
    rw [render_typed, List.append_assoc name, Annotation.split?_append_of_isVariable hname,
      Annotation.split?_separator, Option.map_some, List.append_nil]
  have htrim := (Text.Spaced.word hname.isWord).trim
  rw [read?, hsplit]
  simp only [htrim, isName_of_isVariable hname, if_true, hbreak]

/-- Without a type a separator can only stand behind the `=`. -/
theorem split?_render_untyped_eq_none_iff
    {name : Text} (hname : IsVariable name) {value : Option Text} :
    Annotation.split? (render ⟨some name, none, value⟩) = none ↔
      Annotation.split? (' ' :: value.getD ['_']) = none := by
  rw [render_untyped, List.append_assoc, Annotation.split?_append_of_isVariable hname,
    Option.map_eq_none_iff]
  exact Annotation.split?_behind_equals_eq_none_iff

theorem read?_render_untyped
    {name : Text} (hname : IsVariable name) {value : Option Text}
    (hvalue : Annotation.split? (' ' :: value.getD ['_']) = none) :
    read? (render ⟨some name, none, value⟩) =
      some ⟨some name, none, valueOf (value.getD ['_'])⟩ := by
  have hspace : ' ' ∉ name := by
    intro h
    have hsolid := hname.isWord.solid ' ' h
    cases hsolid
  have hequals : Text.breakOn? equals (render ⟨some name, none, value⟩) =
      some (name, value.getD ['_']) := by
    rw [render_untyped]
    apply breakOn?_equals
    · exact fun hmark => hspace (hmark.subset List.mem_cons_self)
    · exact fun hmark => hspace (hmark.subset List.mem_cons_self)
  have htrim := (Text.Spaced.word hname.isWord).trim
  rw [read?, (split?_render_untyped_eq_none_iff hname).mpr hvalue, hequals]
  simp only [htrim, isName_of_isVariable hname, if_true]

/-- The text of a legible binding is read as the binding. -/
theorem read?_render
    {b : Binding} (hb : b.Legible) (htype : ∀ text ∈ b.typeName, Text.trim text = text)
    (hvalue : ∀ text ∈ b.value, Text.trim text = text) :
    read? b.render = some b := by
  rcases b with ⟨name, typeName, value⟩
  rcases hb with ⟨⟨name, rfl, hname⟩, hseparated, hthunk, huntyped⟩
  have hvalueOf := valueOf_shown hthunk hvalue
  cases typeName with
  | some type =>
      have hequals := hseparated type rfl
      rw [read?_render_typed hname (breakOn?_equals hequals.1 hequals.2 _), htype type rfl,
        hvalueOf]
  | none =>
      have hsplit : Annotation.split? (' ' :: value.getD ['_']) = none := by
        cases value with
        | none => decide
        | some text => exact Annotation.splitFrom?_of_not_infix (huntyped rfl text rfl) .start
      rw [read?_render_untyped hname hsplit, hvalueOf]

end Binding
end GhciBridge
