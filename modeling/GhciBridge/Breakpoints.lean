import GhciBridge.Span

/-!
# Breakpoints

The breakpoints of a session by the module and the line they were asked for.
Ghci gives each a number and may place it elsewhere.  Requests at different
lines can end up at the same breakpoint.
-/

namespace GhciBridge

structure Breakpoint where
  number : Int32
  span : Span
deriving DecidableEq, Repr

namespace Breakpoint

/-- The order of a listing: by number, then by the text of the span. -/
def before (a b : Breakpoint) : Bool :=
  if a.number = b.number then
    !Json.keyBefore b.span.render a.span.render
  else
    a.number.toInt ≤ b.number.toInt

end Breakpoint

/-- A module and a line in it. -/
abbrev Spot := Text × Nat

structure Breakpoints where
  entries : List (Spot × Breakpoint)
deriving DecidableEq, Repr

namespace Breakpoints

def empty : Breakpoints := ⟨[]⟩

def find? (points : Breakpoints) (spot : Spot) : Option Breakpoint :=
  (points.entries.find? fun entry => entry.1 = spot).map Prod.snd

def erase (points : Breakpoints) (spot : Spot) : Breakpoints :=
  ⟨points.entries.filter fun entry => entry.1 ≠ spot⟩

/-- A breakpoint in place of the one asked for at the same spot before. -/
def insert (points : Breakpoints) (spot : Spot) (point : Breakpoint) : Breakpoints :=
  ⟨(spot, point) :: (points.erase spot).entries⟩

def size (points : Breakpoints) : Nat :=
  points.entries.length

def isEmpty (points : Breakpoints) : Bool :=
  points.entries.isEmpty

/-- All breakpoints by number. -/
def toList (points : Breakpoints) : List Breakpoint :=
  (points.entries.map Prod.snd).mergeSort Breakpoint.before

theorem find?_insert
    (points : Breakpoints) (spot other : Spot) (point : Breakpoint) :
    (points.insert spot point).find? other =
      if spot = other then some point else points.find? other := by
  by_cases h : spot = other
  · simp [find?, insert, h]
  · simp only [find?, insert, erase, List.find?_cons, h, decide_false, ↓reduceIte]
    rw [List.find?_filter]
    congr 2
    funext entry
    by_cases hentry : entry.1 = other
    · have : entry.1 ≠ spot := fun e => h (e.symm.trans hentry)
      simp [hentry, Ne.symm h]
    · simp [hentry]

theorem find?_erase
    (points : Breakpoints) (spot other : Spot) :
    (points.erase spot).find? other =
      if spot = other then none else points.find? other := by
  by_cases h : spot = other
  · subst h
    simp [find?, erase]
  · simp only [find?, erase, h, ↓reduceIte]
    rw [List.find?_filter]
    congr 2
    funext entry
    by_cases hentry : entry.1 = other
    · simp [hentry, Ne.symm h]
    · simp [hentry]

end Breakpoints
end GhciBridge
