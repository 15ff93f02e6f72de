import GhciBridge.Proofs.Annotation.Balance
import GhciBridge.Proofs.Text.Trim

/-!
# Bindings that come back

The text of a binding marks its type with ` :: ` and its value with ` = `, and the parts
may hold either mark.  A binding comes back from its text exactly if the marks are
found where they were put: behind a type the first ` = ` has to be the one in front of
the value, and without a type no ` :: ` of the value may stand outside of brackets and
strings.
-/

namespace GhciBridge
namespace Binding

/-- Parts whose marks are found, and that reading does not change. -/
structure Readable (b : Binding) : Prop where
  type : ∀ type ∈ b.typeName,
    Text.trim type = type ∧ ¬ equals <:+: type ∧ ¬ " =".toList <:+ type
  value : ∀ value ∈ b.value, Text.trim value = value ∧ value ≠ ['_']
  untyped : b.typeName = none → ∀ value ∈ b.value, ∀ front,
    front ++ Annotation.separator <+: ' ' :: value → ¬ Annotation.IsLevel front

theorem valueOf_eq_iff
    {value : Option Text} :
    valueOf (value.getD ['_']) = value ↔
      ∀ text ∈ value, Text.trim text = text ∧ text ≠ ['_'] := by
  constructor
  · rintro h text rfl
    rw [Option.getD_some, valueOf, Option.ite_none_left_eq_some] at h
    have htrim : Text.trim text = text := Option.some.inj h.2
    exact ⟨htrim, htrim ▸ h.1⟩
  · intro h
    exact valueOf_shown (fun text htext => (h text htext).2) fun text htext => (h text htext).1

/-- What is read from a text with a separator has a type. -/
theorem typeName_of_split?
    {text : Text} {b : Binding} {cut : Text × Text} (hcut : Annotation.split? text = some cut)
    (h : read? text = some b) :
    b.typeName ≠ none := by
  rw [read?, hcut] at h
  simp only at h
  split at h
  · split at h
    · cases h
      exact Option.some_ne_none _
    · cases h
      exact Option.some_ne_none _
  · cases h

variable {name : Text}

/-!
## With a type
-/

/-- The part in front of the first ` = ` is no longer than the type, and has the type
in it: it is the type. -/
theorem eq_type_of_breakOn?
    {type rest behind front : Text}
    (hbreak : Text.breakOn? equals (type ++ equals ++ rest) = some (front, behind))
    (htype : Text.trim front = type) :
    front = type ∧ behind = rest := by
  have hlength : front.length ≤ type.length :=
    Text.length_le_of_breakOn? (by decide) hbreak rfl
  have hinfix : type <:+: front := htype ▸ Text.trim_isInfix front
  have hfront : type = front := hinfix.sublist.eq_of_length_le hlength
  subst hfront
  exact ⟨rfl, (List.append_cancel_left (Text.eq_append_of_breakOn? hbreak)).symm⟩

theorem read?_render_typed_iff
    (hname : IsVariable name) {type : Text} {value : Option Text} :
    read? (render ⟨some name, some type, value⟩) = some ⟨some name, some type, value⟩ ↔
      (Text.trim type = type ∧ ¬ equals <:+: type ∧ ¬ " =".toList <:+ type) ∧
        valueOf (value.getD ['_']) = value := by
  constructor
  · intro h
    cases hbreak : Text.breakOn? equals (type ++ equals ++ value.getD ['_']) with
    | none =>
        exact absurd (List.infix_append type equals _) (Text.breakOn?_eq_none_iff.mp hbreak)
    | some cut =>
        rcases cut with ⟨front, behind⟩
        rw [read?_render_typed hname hbreak] at h
        simp only [Option.some.injEq, Binding.mk.injEq] at h
        rcases h with ⟨-, htype, hvalue⟩
        rcases eq_type_of_breakOn? hbreak htype with ⟨rfl, rfl⟩
        have hfirst := Text.not_infix_of_breakOn? (by decide) hbreak
        refine ⟨⟨htype, ?_, ?_⟩, hvalue⟩
        · exact fun hinside => hfirst (hinside.trans (List.prefix_append _ _).isInfix)
        · rintro ⟨before, rfl⟩
          exact hfirst ⟨before, ['='], by simp [equals]⟩
  · rintro ⟨⟨htype, hinside, hend⟩, hvalue⟩
    rw [read?_render_typed hname (breakOn?_equals hinside hend _), htype, hvalue]

/-!
## Without a type
-/

theorem read?_render_untyped_iff
    (hname : IsVariable name) {value : Option Text} :
    read? (render ⟨some name, none, value⟩) = some ⟨some name, none, value⟩ ↔
      Annotation.split? (' ' :: value.getD ['_']) = none ∧ valueOf (value.getD ['_']) = value := by
  constructor
  · intro h
    cases hsplit : Annotation.split? (render ⟨some name, none, value⟩) with
    | none =>
        have hvalue := (split?_render_untyped_eq_none_iff hname).mp hsplit
        rw [read?_render_untyped hname hvalue, Option.some.injEq, Binding.mk.injEq] at h
        exact ⟨hvalue, h.2.2⟩
    | some cut => exact absurd rfl (typeName_of_split? hsplit h)
  · rintro ⟨hsplit, hvalue⟩
    rw [read?_render_untyped hname hsplit, hvalue]

theorem split?_value_eq_none_iff
    {value : Option Text} :
    Annotation.split? (' ' :: value.getD ['_']) = none ↔
      ∀ text ∈ value, ∀ front,
        front ++ Annotation.separator <+: ' ' :: text → ¬ Annotation.IsLevel front := by
  cases value with
  | none =>
      have hnone : Annotation.split? [' ', '_'] = none := by decide
      simp only [Option.getD_none, hnone, Option.not_mem_none, false_imp_iff, implies_true]
  | some text =>
      rw [Option.getD_some, Annotation.split?_eq_none_iff]
      simp only [Option.mem_some_iff, forall_eq']

/-- Between the marks of a binding everything is kept: the text of a binding is read
as the binding if nothing in it looks like a mark, and in general exactly if each mark
is found where it was put.  A value that is missing is written `_`. -/
theorem text_comes_back
    {b : Binding} (hname : b.name = some name) (hvariable : IsVariable name) :
    ((∀ type ∈ b.typeName, Text.trim type = type) →
      (∀ value ∈ b.value, Text.trim value = value) →
      b.Legible → read? b.render = some b) ∧
    (read? b.render = some b ↔ b.Readable) ∧
    (b.value = none → equals ++ ['_'] <:+ b.render) := by
  refine ⟨fun htype hvalue hb => read?_render hb htype hvalue, ?_, ?_⟩
  · rcases b with ⟨_, typeName, value⟩
    cases hname
    cases typeName with
    | some type =>
        rw [read?_render_typed_iff hvariable, valueOf_eq_iff]
        constructor
        · rintro ⟨htype, hvalue⟩
          exact ⟨fun text htext => Option.mem_some_iff.mp htext ▸ htype, hvalue, nofun⟩
        · intro h
          exact ⟨h.type type rfl, h.value⟩
    | none =>
        rw [read?_render_untyped_iff hvariable, valueOf_eq_iff, split?_value_eq_none_iff]
        constructor
        · rintro ⟨huntyped, hvalue⟩
          exact ⟨nofun, hvalue, fun _ => huntyped⟩
        · intro h
          exact ⟨h.untyped rfl, h.value⟩
  · rcases b with ⟨_, typeName, value⟩
    rintro rfl
    cases hname
    cases typeName with
    | some type =>
        rw [render_typed, List.append_assoc type, ← List.append_assoc]
        exact List.suffix_append _ _
    | none =>
        rw [render_untyped, List.append_assoc]
        exact List.suffix_append _ _

/-- Behind the first ` = ` the marks of a value do not matter, and an arrow in a type
is none. -/
theorem marks_in_value_come_back :
    IsVariable "f".toList ∧
      read? "f :: Ord a => a = g (b = 1 ::  Int\n = \"".toList =
        some ⟨some "f".toList, some "Ord a => a".toList,
          some "g (b = 1 ::  Int\n = \"".toList⟩ := by
  have hname : IsVariable "f".toList := by decide
  refine ⟨hname, ?_⟩
  have hreadable : Readable ⟨some "f".toList, some "Ord a => a".toList,
      some "g (b = 1 ::  Int\n = \"".toList⟩ := by
    constructor
    · intro type htype
      cases htype
      exact ⟨by decide +kernel, by decide, by decide⟩
    · intro value hvalue
      cases hvalue
      exact ⟨by decide +kernel, by decide⟩
    · exact nofun
  exact (text_comes_back rfl hname).2.1.mpr hreadable

end Binding
end GhciBridge
