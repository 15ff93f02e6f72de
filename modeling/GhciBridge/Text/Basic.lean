/-!
# Texts

Everything ghci prints and everything it is told is a text: a list of
characters.  Lists keep the recognisers of this library structurally recursive,
so that statements about them are proved by induction on the text itself.

The two cutting functions below are the only way the library looks for a fixed
piece of text: at the front (`afterPrefix?`) or anywhere (`breakOn?`).
-/

namespace GhciBridge

abbrev Text := List Char

namespace Text

/-- What follows `head` in a text that begins with it. -/
def afterPrefix? : (head : Text) → Text → Option Text
  | [], text => some text
  | _ :: _, [] => none
  | h :: head, c :: text => if h = c then afterPrefix? head text else none

theorem afterPrefix?_eq_some_iff
    {head text rest : Text} :
    afterPrefix? head text = some rest ↔ text = head ++ rest := by
  induction head generalizing text with
  | nil =>
      simp [afterPrefix?]
  | cons h head ih =>
      cases text with
      | nil =>
          simp [afterPrefix?]
      | cons c text =>
          by_cases hc : h = c
          · simp [afterPrefix?, hc, ih]
          · have hc' : ¬ c = h := fun e => hc e.symm
            simp [afterPrefix?, hc, hc']

@[simp] theorem afterPrefix?_append
    (head rest : Text) :
    afterPrefix? head (head ++ rest) = some rest :=
  afterPrefix?_eq_some_iff.2 rfl

/-- Whether a text begins with `head`. -/
def beginsWith (head text : Text) : Bool :=
  (afterPrefix? head text).isSome

theorem beginsWith_iff
    {head text : Text} :
    beginsWith head text = true ↔ ∃ rest, text = head ++ rest := by
  unfold beginsWith
  cases h : afterPrefix? head text with
  | none =>
      simp only [Option.isSome_none, Bool.false_eq_true, false_iff]
      intro ⟨rest, hrest⟩
      rw [hrest, afterPrefix?_append] at h
      cases h
  | some rest =>
      simp only [Option.isSome_some, true_iff]
      exact ⟨rest, afterPrefix?_eq_some_iff.1 h⟩

/-- The text before and after the first occurrence of `mark`. -/
def breakOn? (mark : Text) : Text → Option (Text × Text)
  | [] => (afterPrefix? mark []).map fun rest => ([], rest)
  | c :: text =>
      match afterPrefix? mark (c :: text) with
      | some rest => some ([], rest)
      | none => (breakOn? mark text).map fun cut => (c :: cut.1, cut.2)

/-- Cutting loses nothing: the two parts and the mark make up the text. -/
theorem eq_append_of_breakOn?
    {mark text before after : Text}
    (h : breakOn? mark text = some (before, after)) :
    text = before ++ mark ++ after := by
  induction text generalizing before with
  | nil =>
      simp only [breakOn?, Option.map_eq_some_iff, Prod.mk.injEq] at h
      obtain ⟨rest, hrest, rfl, rfl⟩ := h
      simpa using afterPrefix?_eq_some_iff.1 hrest
  | cons c text ih =>
      simp only [breakOn?] at h
      split at h
      · next rest hrest =>
          simp only [Option.some.injEq, Prod.mk.injEq] at h
          obtain ⟨rfl, rfl⟩ := h
          simpa using afterPrefix?_eq_some_iff.1 hrest
      · simp only [Option.map_eq_some_iff, Prod.mk.injEq] at h
        obtain ⟨⟨b, a⟩, hcut, rfl, rfl⟩ := h
        simp [ih hcut]

/-- The decimal spelling of a natural number. -/
def ofNat (n : Nat) : Text :=
  Nat.toDigits 10 n

/-- The decimal spelling of an integer, with a minus sign if it is negative. -/
def ofInt : Int → Text
  | .ofNat n => ofNat n
  | .negSucc n => '-' :: ofNat (n + 1)

/-- Lines put together with a line break between each two. -/
def joinLines (lines : List Text) : Text :=
  List.intercalate ['\n'] lines

/-- Texts put together with a single space between each two. -/
def joinWords (texts : List Text) : Text :=
  List.intercalate [' '] texts

end Text
end GhciBridge
