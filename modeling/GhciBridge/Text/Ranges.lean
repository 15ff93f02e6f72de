import GhciBridge.Text.Basic

/-!
# Classes of characters given by ranges

The larger Unicode properties are kept as lists of code point ranges, both ends
included.
-/

namespace GhciBridge
namespace Text

/-- Whether a character lies in one of the ranges. -/
def inRanges (ranges : List (Nat × Nat)) (c : Char) : Bool :=
  ranges.any fun range => range.1 ≤ c.toNat && c.toNat ≤ range.2

theorem inRanges_iff
    {ranges : List (Nat × Nat)} {c : Char} :
    inRanges ranges c = true ↔
      ∃ range ∈ ranges, range.1 ≤ c.toNat ∧ c.toNat ≤ range.2 := by
  simp [inRanges]

end Text
end GhciBridge
