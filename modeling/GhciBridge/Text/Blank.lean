import GhciBridge.Text.Basic

/-!
# Blank characters

A character is blank if it has the Unicode property White_Space.  Trimming,
splitting into words and the notion of a blank line all rest on this one class.
-/

namespace GhciBridge
namespace Text

/-- The characters with the property White_Space. -/
def isBlank (c : Char) : Bool :=
  let n := c.toNat
  (0x09 ≤ n && n ≤ 0x0D) || n == 0x20 || n == 0x85 || n == 0xA0 || n == 0x1680 ||
    (0x2000 ≤ n && n ≤ 0x200A) || n == 0x2028 || n == 0x2029 || n == 0x202F ||
    n == 0x205F || n == 0x3000

/-- Whether a text has nothing but blank characters. -/
def allBlank (text : Text) : Bool :=
  text.all isBlank

def trimStart (text : Text) : Text :=
  text.dropWhile isBlank

def trimEnd (text : Text) : Text :=
  (text.reverse.dropWhile isBlank).reverse

/-- The text without the blank characters around it. -/
def trim (text : Text) : Text :=
  trimEnd (trimStart text)

/-- The words of a text: its longest pieces without blank characters. -/
def words : Text → List Text
  | [] => []
  | c :: text =>
      if isBlank c then
        words text
      else
        match text with
        | [] => [[c]]
        | d :: rest =>
            if isBlank d then
              [c] :: words (d :: rest)
            else
              match words (d :: rest) with
              | [] => [[c]]
              | w :: ws => (c :: w) :: ws

/-- The words of a text with one space between each two. -/
def squeeze (text : Text) : Text :=
  joinWords (words text)

/-- Whether the first character of a text is blank. -/
def startsBlank : Text → Bool
  | [] => false
  | c :: _ => isBlank c

/-- The head up to the first blank character, and the rest from there on. -/
def breakBlank (text : Text) : Text × Text :=
  (text.takeWhile (fun c => !isBlank c), text.dropWhile (fun c => !isBlank c))

/-!
## Trimming
-/

theorem trimStart_eq_self
    {text : Text} (h : startsBlank text = false) :
    trimStart text = text := by
  cases text with
  | nil =>
      rfl
  | cons c rest =>
      have hc : isBlank c = false := h
      simp [trimStart, hc]

theorem startsBlank_trimStart
    (text : Text) :
    startsBlank (trimStart text) = false := by
  induction text with
  | nil =>
      rfl
  | cons c rest ih =>
      by_cases hc : isBlank c = true
      · simpa [trimStart, hc] using ih
      · simp [trimStart, hc, startsBlank]

theorem allBlank_iff_trimStart
    (text : Text) :
    allBlank text = true ↔ trimStart text = [] := by
  induction text with
  | nil =>
      simp [allBlank, trimStart]
  | cons c rest ih =>
      cases hc : isBlank c with
      | false =>
          simp [allBlank, trimStart, hc]
      | true =>
          have hall : allBlank (c :: rest) = allBlank rest := by
            simp only [allBlank, List.all_cons, hc, Bool.true_and]
          have htrim : trimStart (c :: rest) = trimStart rest := by
            simp only [trimStart, List.dropWhile_cons, hc, if_true]
          rw [hall, htrim]
          exact ih

end Text
end GhciBridge
