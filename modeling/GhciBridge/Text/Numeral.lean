import GhciBridge.Text.Basic

/-!
# Numbers in texts

A numeral is a non-empty run of the digits `0` to `9`.  The readers differ only
in the range they accept; a number out of range is no number at all.
-/

namespace GhciBridge
namespace Numeral

/-- The value of a run of digits read in base ten. -/
def value (digits : Text) : Nat :=
  Nat.ofDigitChars 10 digits 0

/-- The number a text spells, if it is a numeral. -/
def nat? (text : Text) : Option Nat :=
  if text ≠ [] ∧ text.all Char.isDigit then some (value text) else none

/-- A numeral below `bound`. -/
def below? (bound : Nat) (text : Text) : Option Nat :=
  (nat? text).bind fun n => if n < bound then some n else none

/-- A numeral that fits a signed word of 32 bits. -/
def word? (text : Text) : Option Int32 :=
  (below? (Nat.pow 2 31) text).map Int32.ofNat

/-- A numeral with an optional minus sign that fits a signed word of 32 bits. -/
def signedWord? : Text → Option Int32
  | '-' :: digits => (below? (Nat.pow 2 31 + 1) digits).map fun n => Int32.ofInt (-n)
  | digits => word? digits

/-- A numeral below `bound` that may carry a plus sign. -/
def unsigned? (bound : Nat) : Text → Option Nat
  | '+' :: digits => below? bound digits
  | digits => below? bound digits

/-- The digits at the front of a text, and what follows them. -/
def digitsAtFront (text : Text) : Text × Text :=
  (text.takeWhile Char.isDigit, text.dropWhile Char.isDigit)

theorem digitsAtFront_append
    (text : Text) :
    (digitsAtFront text).1 ++ (digitsAtFront text).2 = text :=
  List.takeWhile_append_dropWhile

end Numeral
end GhciBridge
