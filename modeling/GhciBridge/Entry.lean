import GhciBridge.Text.Blank

/-!
# Entries

Ghci wraps long types and values onto indented lines.  An entry is one line
together with the indented lines behind it; its text is the words of all of
them with single spaces in between.  Blank lines separate entries and belong to
none.
-/

namespace GhciBridge
namespace Entry

/-- The lines from the first one on that is not blank. -/
def skipBlank (lines : List Text) : List Text :=
  lines.dropWhile Text.allBlank

/-- Whether a line continues the entry in front of it. -/
def continues (line : Text) : Bool :=
  !Text.allBlank line && Text.startsBlank line

/-- The text of an entry made of the given lines. -/
def join (lines : List Text) : Text :=
  Text.joinWords (lines.flatMap Text.words)

/-- The entry at the front of a list of lines, and the lines behind it. -/
def take? : List Text → Option (Text × List Text)
  | [] => none
  | line :: lines =>
      some (join (line :: lines.takeWhile continues), lines.dropWhile continues)

theorem length_skipBlank_le
    (lines : List Text) :
    (skipBlank lines).length ≤ lines.length :=
  (List.dropWhile_suffix Text.allBlank).length_le

theorem length_of_take?
    {lines rest : List Text} {entry : Text}
    (h : take? lines = some (entry, rest)) :
    rest.length < lines.length := by
  cases lines with
  | nil =>
      simp [take?] at h
  | cons line lines =>
      simp only [take?, Option.some.injEq, Prod.mk.injEq] at h
      obtain ⟨_, rfl⟩ := h
      have hle : (lines.dropWhile continues).length ≤ lines.length :=
        (List.dropWhile_suffix continues).length_le
      simp only [List.length_cons]
      omega

end Entry
end GhciBridge
