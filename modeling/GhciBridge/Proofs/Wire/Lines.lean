import GhciBridge.Wire.Lines

/-!
# Pieces of a stream

Cutting a stream looks at nothing but the places of the stop.  So it does not
matter whether a stream is cut at once or in parts, and an encoding that gives
the stop a code of its own may be cut in place of what it encodes.
-/

namespace GhciBridge
namespace Lines

/-- Pieces of a stream with something in front of the first one. -/
def extend {α : Type} (front : List α) : List (List α) × List α → List (List α) × List α
  | ([], last) => ([], front ++ last)
  | (line :: lines, last) => ((front ++ line) :: lines, last)

theorem extend_extend
    {α : Type} (first second : List α) (pieces : List (List α) × List α) :
    extend first (extend second pieces) = extend (first ++ second) pieces := by
  rcases pieces with ⟨lines, last⟩
  cases lines with
  | nil => simp [extend]
  | cons line lines => simp [extend]

variable {α β : Type} [DecidableEq α] [DecidableEq β]

theorem cut_stop_cons
    (stop : α) (stream : List α) :
    cut stop (stop :: stream) = ([stop] :: (cut stop stream).1, (cut stop stream).2) := by
  simp [cut]

theorem cut_cons_of_ne
    {stop a : α} (ha : a ≠ stop) (stream : List α) :
    cut stop (a :: stream) = extend [a] (cut stop stream) := by
  rw [cut]
  rcases h : cut stop stream with ⟨lines, last⟩
  cases lines with
  | nil => simp [ha, extend]
  | cons line lines => simp [ha, extend]

theorem cut_append_of_notMem
    {stop : α} {front : List α} (hfront : stop ∉ front) (stream : List α) :
    cut stop (front ++ stream) = extend front (cut stop stream) := by
  induction front with
  | nil =>
      rcases h : cut stop stream with ⟨lines, last⟩
      cases lines with
      | nil => simp [extend, h]
      | cons line lines => simp [extend, h]
  | cons a front ih =>
      rw [List.mem_cons, not_or] at hfront
      rw [List.cons_append, cut_cons_of_ne (Ne.symm hfront.1), ih hfront.2, extend_extend]
      rfl

theorem cut_terminated
    {stop : α} {front : List α} (hfront : stop ∉ front) (stream : List α) :
    cut stop (front ++ stop :: stream) =
      ((front ++ [stop]) :: (cut stop stream).1, (cut stop stream).2) := by
  rw [cut_append_of_notMem hfront, cut_stop_cons]
  rfl

theorem notMem_cut_snd
    (stop : α) (stream : List α) :
    stop ∉ (cut stop stream).2 := by
  induction stream with
  | nil => simp [cut]
  | cons a stream ih =>
      by_cases ha : a = stop
      · rw [ha, cut_stop_cons]
        exact ih
      · rw [cut_cons_of_ne ha]
        rcases h : cut stop stream with ⟨lines, last⟩
        rw [h] at ih
        cases lines with
        | nil =>
            rw [extend, List.singleton_append, List.mem_cons, not_or]
            exact ⟨Ne.symm ha, ih⟩
        | cons line lines => exact ih

theorem infix_of_mem_cut
    {stop : α} {stream line : List α} (hline : line ∈ (cut stop stream).1) :
    line <:+: stream := by
  have hflat := flatten_cut stop stream
  have hheld : line <:+: (cut stop stream).1.flatten := List.infix_of_mem_flatten hline
  rw [← hflat]
  exact hheld.trans (List.prefix_append _ _).isInfix

theorem suffix_cut
    (stop : α) (stream : List α) :
    (cut stop stream).2 <:+ stream := by
  have hflat := flatten_cut stop stream
  exact ⟨_, hflat⟩

/-- A stream may be cut in parts: what the first part leaves goes in front of the
second one. -/
theorem cut_append
    (stop : α) (first second : List α) :
    cut stop (first ++ second) =
      ((cut stop first).1 ++ (cut stop ((cut stop first).2 ++ second)).1,
        (cut stop ((cut stop first).2 ++ second)).2) := by
  induction first with
  | nil => simp [cut]
  | cons a first ih =>
      by_cases ha : a = stop
      · rw [ha, List.cons_append, cut_stop_cons, cut_stop_cons, ih]
        rfl
      · rw [List.cons_append, cut_cons_of_ne ha, cut_cons_of_ne ha, ih]
        rcases h : cut stop first with ⟨lines, last⟩
        cases lines with
        | nil =>
            show extend [a] (cut stop (last ++ second)) = cut stop (a :: (last ++ second))
            rw [cut_cons_of_ne ha]
        | cons line lines => rfl

/-- An encoding that keeps the stop apart has the codes of the pieces for
pieces. -/
theorem cut_flatMap
    {stop : α} {code : β} {encode : α → List β}
    (hstop : encode stop = [code]) (hother : ∀ a, a ≠ stop → code ∉ encode a)
    (stream : List α) :
    cut code (stream.flatMap encode) =
      ((cut stop stream).1.map (·.flatMap encode), (cut stop stream).2.flatMap encode) := by
  induction stream with
  | nil => rfl
  | cons a stream ih =>
      by_cases ha : a = stop
      · rw [ha, List.flatMap_cons, hstop, List.singleton_append, cut_stop_cons,
          cut_stop_cons, ih]
        simp [hstop]
      · rw [List.flatMap_cons, cut_append_of_notMem (hother a ha), ih, cut_cons_of_ne ha]
        rcases h : cut stop stream with ⟨lines, last⟩
        cases lines with
        | nil => simp [extend]
        | cons line lines => simp [extend]

end Lines
end GhciBridge
