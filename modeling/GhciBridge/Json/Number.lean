import GhciBridge.Json.Token

/-!
# The values of JSON numbers

An integer that fits 64 bits stays an integer.  Any other number becomes a
double in two roundings: its leading digits as far as they fit 64 bits, then a
multiplication or division by a power of ten.
-/

namespace GhciBridge
namespace Json

/-- The bound of the significands that are kept exactly. -/
def significandBound : Nat := Nat.pow 2 64

/-- Appends the digits of the whole part as long as they fit.  The second
component counts the digits that did not. -/
def takeWhole (significand : Nat) : Text → Nat × Nat
  | [] => (significand, 0)
  | d :: digits =>
      let next := significand * 10 + (d.toNat - 48)
      if next < significandBound then takeWhole next digits
      else (significand, digits.length + 1)

/-- Appends the digits of the fraction as long as they fit.  The second
component counts the digits that did. -/
def takeFraction (significand : Nat) : Text → Nat × Nat
  | [] => (significand, 0)
  | d :: digits =>
      let next := significand * 10 + (d.toNat - 48)
      if next < significandBound then
        let (s, taken) := takeFraction next digits
        (s, taken + 1)
      else
        (significand, 0)

/-- The exponent of the largest power of ten that a double comes near to. -/
def tenLimit : Nat := 308

/-- A double divided by the largest power of ten, `times` times over. -/
def shrink? : (times : Nat) → Binary64 → Option Binary64
  | 0, x => some x
  | times + 1, x =>
      if x.significand = 0 then
        some x
      else
        (Binary64.powerOfTen? tenLimit).bind fun factor =>
          (x.div? factor).bind (shrink? times)

/-- A double times a power of ten, rounded once for every factor that has a
double of its own. -/
def scaleByTen? (x : Binary64) (power : Int) : Option Binary64 :=
  if 0 ≤ power then
    if power.toNat ≤ tenLimit then
      (Binary64.powerOfTen? power.toNat).bind x.mul?
    else if x.significand = 0 then
      some x
    else
      none
  else
    let down := (-power).toNat
    let times := (down - 1) / tenLimit
    (shrink? times x).bind fun x =>
      (Binary64.powerOfTen? (down - tenLimit * times)).bind x.div?

namespace Number

/-- The double nearest to the digits of a number, scaled by the digits left out
and by the exponent.  An exponent beyond 31 bits makes the number zero or too
large. -/
def magnitude? (n : Number) : Option Binary64 :=
  let (significand, dropped) := takeWhole 0 n.whole
  let (significand, taken) := takeFraction significand (n.fraction.getD [])
  let start : Int := (dropped : Int) - taken
  let scaled (power : Int) :=
    (Binary64.nearest? false significand 1).bind fun x => scaleByTen? x power
  match n.exponent with
  | none => scaled start
  | some (below, digits) =>
      let exponent : Int := Numeral.value digits
      if exponent < Nat.pow 2 31 then
        scaled (if below then start - exponent else start + exponent)
      else if below ∨ significand = 0 then
        some (Binary64.zero false)
      else
        none

/-- The double that a number spells; none if it is beyond the largest one. -/
def double? (n : Number) : Option Binary64 :=
  n.magnitude?.map fun x => { x with negative := n.negative }

/-- Whether a number is spelled as an integer. -/
def isWhole (n : Number) : Bool :=
  n.fraction.isNone && n.exponent.isNone

/-- The integer from 0 to `2 ^ 64 - 1` that a number spells without a sign. -/
def natural? (n : Number) : Option Nat :=
  if n.isWhole ∧ ¬ n.negative then Numeral.below? (Nat.pow 2 64) n.whole else none

/-- The value of a number: an integer if it is one of 64 bits, else a double.
Zero with a minus sign is a double. -/
def value? (n : Number) : Option Json :=
  match n.natural? with
  | some whole => some (.int whole)
  | none =>
      let whole := Numeral.value n.whole
      if n.isWhole ∧ n.negative ∧ 0 < whole ∧ whole ≤ Nat.pow 2 63 then
        some (.int (-whole))
      else
        n.double?.map .double

end Number
end Json
end GhciBridge
