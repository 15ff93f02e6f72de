/-!
# Cutting a stream into lines

A stream of bytes or characters is cut behind every line break.  The pieces keep
their line breaks; what follows the last one is not a line yet.
-/

namespace GhciBridge
namespace Lines

/-- The pieces of a stream that end in `stop`, and what follows them. -/
def cut {α : Type} [DecidableEq α] (stop : α) : List α → List (List α) × List α
  | [] => ([], [])
  | a :: stream =>
      let (lines, last) := cut stop stream
      if a = stop then
        ([a] :: lines, last)
      else
        match lines with
        | [] => ([], a :: last)
        | line :: lines => ((a :: line) :: lines, last)

/-- Nothing is lost and nothing changes its place. -/
theorem flatten_cut
    {α : Type} [DecidableEq α] (stop : α) (stream : List α) :
    (cut stop stream).1.flatten ++ (cut stop stream).2 = stream := by
  induction stream with
  | nil =>
      rfl
  | cons a stream ih =>
      simp only [cut]
      split
      · simpa using ih
      · cases h : (cut stop stream).1 with
        | nil =>
            simp only [h] at ih
            simpa using ih
        | cons line lines =>
            simp only [h] at ih
            simpa using ih

/-- All the pieces of a stream; the last one need not end in `stop`. -/
def all {α : Type} [DecidableEq α] (stop : α) (stream : List α) : List (List α) :=
  let (lines, last) := cut stop stream
  if last = [] then lines else lines ++ [last]

end Lines
end GhciBridge
