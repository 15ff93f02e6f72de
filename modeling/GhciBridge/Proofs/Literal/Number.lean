import GhciBridge.Literal
import Mathlib.Data.List.Basic
import Mathlib.Data.Nat.Digits.Defs

/-!
# Numbers in escapes

A numeric escape is written with the figures `0` to `9` and `a` to `f`, the letters in
either case.  Its value is what the figures stand for in its base; leading zeros add
nothing to it.

The value may be of any size, but only code points denote characters.  So it does not
matter if the figures are taken into a word of 32 bits, one after the other, and the
reading stops as soon as the word overflows.
-/

namespace GhciBridge
namespace Literal

/-- The spellings of each figure, in the order of what they stand for. -/
def figures : List Text :=
  ["0", "1", "2", "3", "4", "5", "6", "7", "8", "9", "aA", "bB", "cC", "dD", "eE",
    "fF"].map String.toList

/-- What a figure stands for.  Any other character counts as too large for every base. -/
def figure (c : Char) : Nat :=
  figures.findIdx fun spellings => c ∈ spellings

/-- The number that a run of figures is written for. -/
def number (base : Nat) (digits : Text) : Nat :=
  Nat.ofDigits base (digits.map figure).reverse

/-!
## Figures
-/

/-- The characters of ASCII. -/
def ascii : Text :=
  (List.range 0x80).map Char.ofNat

theorem mem_ascii
    {c : Char} (hc : c.toNat < 0x80) :
    c ∈ ascii := by
  rw [ascii, List.mem_map]
  exact ⟨c.toNat, List.mem_range.mpr hc, Char.ofNat_toNat c⟩

theorem figure_of_not_ascii
    {c : Char} (hc : ¬ c.toNat < 0x80) :
    figure c = 16 := by
  have hnot : ∀ spellings ∈ figures, decide (c ∈ spellings) = false := by
    intro spellings hspellings
    rw [decide_eq_false_iff_not]
    intro hmem
    have hall : (figures.all fun spellings => spellings.all fun d => d.toNat < 0x80) = true := by
      decide
    have hascii := List.all_eq_true.mp (List.all_eq_true.mp hall spellings hspellings) c hmem
    exact hc (of_decide_eq_true hascii)
  exact List.findIdx_eq_length.mpr hnot

theorem digit?_of_not_ascii
    {c : Char} (hc : ¬ c.toNat < 0x80) (base : Nat) :
    digit? base c = none := by
  have hlast : ∀ last : Char, last.toNat < 0x80 → ¬ c ≤ last := by
    intro last hlast hle
    have hcode : c.toNat ≤ last.toNat := hle
    omega
  rw [digit?, if_neg fun h => hlast '9' (by decide) h.2, if_neg fun h => hlast 'f' (by decide) h.2,
    if_neg fun h => hlast 'F' (by decide) h.2]
  rfl

theorem digit?_sixteen
    (c : Char) :
    digit? 16 c = if figure c < 16 then some (figure c) else none := by
  by_cases hc : c.toNat < 0x80
  · have hall : (ascii.all fun c =>
        digit? 16 c == if figure c < 16 then some (figure c) else none) = true := by
      decide +kernel
    exact beq_iff_eq.mp (List.all_eq_true.mp hall c (mem_ascii hc))
  · rw [figure_of_not_ascii hc, digit?_of_not_ascii hc]
    rfl

theorem filter_digit?_sixteen
    {base : Nat} (hbase : base ≤ 16) (c : Char) :
    (digit? 16 c).filter (· < base) = digit? base c := by
  have hsmaller : ∀ value : Option Nat,
      (value.filter (· < 16)).filter (· < base) = value.filter (· < base) := by
    intro value
    cases value with
    | none => rfl
    | some n =>
        by_cases hn : n < 16
        · simp [Option.filter, hn]
        · have hlarge : ¬ n < base := by omega
          simp [Option.filter, hn, hlarge]
  exact hsmaller _

theorem digit?_eq
    {base : Nat} (hbase : base ≤ 16) (c : Char) :
    digit? base c = if figure c < base then some (figure c) else none := by
  rw [← filter_digit?_sixteen hbase, digit?_sixteen]
  by_cases hsmall : figure c < base
  · have hfigure : figure c < 16 := by omega
    simp [Option.filter, hsmall, hfigure]
  · by_cases hfigure : figure c < 16
    · simp [Option.filter, hsmall, hfigure]
    · simp [hsmall, hfigure]

theorem isDigit_iff
    {base : Nat} (hbase : base ≤ 16) {c : Char} :
    isDigit base c = true ↔ figure c < base := by
  rw [isDigit, digit?_eq hbase]
  split
  · next h => simp [h]
  · next h => simp [h]

theorem isDigit_eq_false_iff
    {base : Nat} (hbase : base ≤ 16) {c : Char} :
    isDigit base c = false ↔ ¬ figure c < base := by
  rw [← isDigit_iff hbase, Bool.not_eq_true]

/-- Reading figure by figure gives the number. -/
theorem number_eq_foldl
    (base : Nat) (digits : Text) :
    number base digits = digits.foldl (fun n c => n * base + figure c) 0 := by
  rw [number, Nat.ofDigits_eq_foldr, List.foldr_reverse, List.foldl_map]
  apply List.foldl_ext
  intro n c _
  rw [Nat.mul_comm n, Nat.add_comm]
  rfl

theorem valueIn_eq_number
    {base : Nat} (hbase : base ≤ 16) {digits : Text} (hdigits : ∀ c ∈ digits, figure c < base) :
    valueIn base digits = number base digits := by
  rw [number_eq_foldl, valueIn]
  apply List.foldl_ext
  intro n c hc
  rw [digit?_eq hbase, if_pos (hdigits c hc), Option.getD_some]

/-!
## Numbers in a word
-/

/-- A number as a word, if it fits. -/
def word? (n : Nat) : Option UInt32 :=
  if n < UInt32.size then some (UInt32.ofNat n) else none

/-- One more figure behind those in a word.  Neither the product nor the sum may leave
the word. -/
def appended? (base : Nat) (value : UInt32) (c : Char) : Option UInt32 :=
  (word? (value.toNat * base)).bind fun product => word? (product.toNat + figure c)

/-- The figures behind those that are in a word already. -/
def wordFrom? (base : Nat) (start : UInt32) (digits : Text) : Option UInt32 :=
  digits.foldlM (appended? base) start

theorem appended?_eq
    (base : Nat) (value : UInt32) (c : Char) :
    appended? base value c = word? (value.toNat * base + figure c) := by
  unfold appended?
  by_cases hproduct : value.toNat * base < UInt32.size
  · have hword : word? (value.toNat * base) = some (UInt32.ofNat (value.toNat * base)) :=
      if_pos hproduct
    rw [hword, Option.bind_some, UInt32.toNat_ofNat_of_lt' hproduct]
  · have hword : word? (value.toNat * base) = none := if_neg hproduct
    have hsum : ¬ value.toNat * base + figure c < UInt32.size := by omega
    rw [hword, Option.bind_none]
    exact (if_neg hsum).symm

theorem le_foldl_figures
    {base : Nat} (hbase : 0 < base) (start : Nat) (digits : Text) :
    start ≤ digits.foldl (fun n c => n * base + figure c) start := by
  induction digits generalizing start with
  | nil => exact Nat.le_refl start
  | cons c digits ih =>
      calc
        start ≤ start * base := Nat.le_mul_of_pos_right start hbase
        _ ≤ start * base + figure c := Nat.le_add_right _ _
        _ ≤ _ := ih _

/-- What does not fit stays too large, whatever figures follow. -/
theorem wordFrom?_eq
    {base : Nat} (hbase : 0 < base) (start : UInt32) (digits : Text) :
    wordFrom? base start digits =
      word? (digits.foldl (fun n c => n * base + figure c) start.toNat) := by
  induction digits generalizing start with
  | nil =>
      have hfits : word? start.toNat = some (UInt32.ofNat start.toNat) :=
        if_pos start.toNat_lt
      rw [List.foldl_nil, hfits, UInt32.ofNat_toNat]
      rfl
  | cons c digits ih =>
      rw [wordFrom?, List.foldlM_cons, appended?_eq, List.foldl_cons]
      by_cases hsum : start.toNat * base + figure c < UInt32.size
      · have hword := ih (UInt32.ofNat (start.toNat * base + figure c))
        rw [UInt32.toNat_ofNat_of_lt' hsum] at hword
        rw [word?, if_pos hsum]
        exact hword
      · have hle := le_foldl_figures hbase (start.toNat * base + figure c) digits
        have hlarge : ¬ digits.foldl (fun n c => n * base + figure c)
            (start.toNat * base + figure c) < UInt32.size := by omega
        rw [word?, if_neg hsum, word?, if_neg hlarge]
        rfl

/-- A number denotes the same character whether or not it is read in a word: no code
point overflows it. -/
theorem char?_number
    {base : Nat} (hbase : 0 < base) (digits : Text) :
    char? (number base digits) =
      (wordFrom? base 0 digits).bind fun value => char? value.toNat := by
  rw [wordFrom?_eq hbase, UInt32.toNat_zero, ← number_eq_foldl]
  by_cases hfits : number base digits < UInt32.size
  · have hword : word? (number base digits) = some (UInt32.ofNat (number base digits)) :=
      if_pos hfits
    rw [hword, Option.bind_some, UInt32.toNat_ofNat_of_lt' hfits]
  · have hword : word? (number base digits) = none := if_neg hfits
    have hinvalid : ¬ (number base digits).isValidChar := by
      have hsize : UInt32.size = 4294967296 := rfl
      unfold Nat.isValidChar
      omega
    rw [hword, Option.bind_none]
    exact if_neg hinvalid

/-- The first figure may be in the word before the reading begins. -/
theorem wordFrom?_figure
    {base : Nat} {c : Char} (hc : figure c < UInt32.size) (digits : Text) :
    wordFrom? base (UInt32.ofNat (figure c)) digits = wordFrom? base 0 (c :: digits) := by
  have hfirst : appended? base 0 c = some (UInt32.ofNat (figure c)) := by
    rw [appended?_eq, UInt32.toNat_zero, Nat.zero_mul, Nat.zero_add]
    exact if_pos hc
  rw [wordFrom?, wordFrom?, List.foldlM_cons, hfirst]
  rfl

/-- A numeric escape is the same whether or not its number is read in a word. -/
theorem numeric?_eq_words
    {base : Nat} (hpos : 0 < base) (hbase : base ≤ 16) (text : Text) :
    numeric? base text =
      let digits := text.takeWhile (isDigit base)
      if digits = [] then none
      else ((wordFrom? base 0 digits).bind fun value => char? value.toNat).map fun c =>
        ([c], text.dropWhile (isDigit base)) := by
  have hdigits : ∀ c ∈ text.takeWhile (isDigit base), figure c < base := fun c hc =>
    (isDigit_iff hbase).mp (List.all_eq_true.mp List.all_takeWhile c hc)
  rw [numeric?, valueIn_eq_number hbase hdigits, char?_number hpos]

end Literal
end GhciBridge
