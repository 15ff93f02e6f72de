import GhciBridge.Text.Basic

/-!
# Doubles

A finite IEEE 754 double is a sign, a significand below `2 ^ 53` and a power of
two.  Rounding works on exact quotients of natural numbers, so the result of
every operation is the double nearest to the exact result, and of two equally
near ones the one with an even significand.

The written form has the fewest digits that read back as the same double, and of
the spellings with that many digits the nearest one.
-/

namespace GhciBridge
namespace Json

/-- The double `significand * 2 ^ exponent`, negated if `negative` is set. -/
structure Binary64 where
  negative : Bool
  significand : Nat
  exponent : Int
deriving DecidableEq, Repr

namespace Binary64

/-- The exponent of the doubles nearest to zero. -/
def minExponent : Int := -1074

/-- The exponent of the largest doubles. -/
def maxExponent : Int := 971

def zero (negative : Bool) : Binary64 :=
  ⟨negative, 0, minExponent⟩

/-- The quotient rounded to the nearest natural number, a half to the even
neighbour. -/
def roundDiv (num den : Nat) : Nat :=
  let quotient := num / den
  let twice := 2 * (num % den)
  if twice < den then quotient
  else if den < twice then quotient + 1
  else quotient + quotient % 2

/-- A quotient scaled by a power of two, as a quotient. -/
def scale (num den : Nat) (power : Int) : Nat × Nat :=
  (num * Nat.pow 2 power.toNat, den * Nat.pow 2 (-power).toNat)

/-- The exponent at which a positive quotient has a significand of 53 bits, or
the least exponent if there it has fewer. -/
def exponentOf (num den : Nat) : Int :=
  let guess : Int := Nat.log2 num - Nat.log2 den - 52
  let scaled := scale num den (-guess)
  max minExponent (if scaled.1 < Nat.pow 2 52 * scaled.2 then guess - 1 else guess)

/-- The double nearest to a quotient; none if that is beyond the largest one. -/
def nearest? (negative : Bool) (num den : Nat) : Option Binary64 :=
  if num = 0 then
    some (zero negative)
  else
    let exponent := exponentOf num den
    let scaled := scale num den (-exponent)
    let significand := roundDiv scaled.1 scaled.2
    let double : Binary64 :=
      if significand = Nat.pow 2 53 then
        ⟨negative, Nat.pow 2 52, exponent + 1⟩
      else
        ⟨negative, significand, exponent⟩
    if maxExponent < double.exponent then none else some double

/-- The exact absolute value, as a quotient. -/
def ratio (x : Binary64) : Nat × Nat :=
  scale x.significand 1 x.exponent

def mul? (x y : Binary64) : Option Binary64 :=
  nearest? (x.negative != y.negative)
    (x.ratio.1 * y.ratio.1) (x.ratio.2 * y.ratio.2)

/-- The quotient of two doubles, the second one not zero. -/
def div? (x y : Binary64) : Option Binary64 :=
  nearest? (x.negative != y.negative)
    (x.ratio.1 * y.ratio.2) (x.ratio.2 * y.ratio.1)

/-- The double nearest to a power of ten. -/
def powerOfTen? (n : Nat) : Option Binary64 :=
  nearest? false (Nat.pow 10 n) 1

/-!
## Shortest digits
-/

/-- The exponent of ten of the first digit of a positive quotient. -/
def decimalExponent (num den : Nat) : Int :=
  let guess : Int :=
    (Nat.toDigits 10 num).length - (Nat.toDigits 10 den).length
  if num * Nat.pow 10 (-guess).toNat < den * Nat.pow 10 guess.toNat then guess - 1 else guess

/-- A double together with the ends of the interval of numbers that round to it,
all three multiples of one unit.  The ends belong to the interval if the
significand is even. -/
structure Interval where
  low : Nat
  mid : Nat
  high : Nat
  unit : Nat × Nat
  closed : Bool

/-- Above a power of two the doubles lie twice as wide as below it. -/
def interval (x : Binary64) : Interval :=
  let narrow := x.significand = Nat.pow 2 52 ∧ minExponent < x.exponent
  { low := if narrow then 4 * x.significand - 1 else 4 * x.significand - 2
    mid := 4 * x.significand
    high := 4 * x.significand + 2
    unit := scale 1 1 (x.exponent - 2)
    closed := x.significand % 2 = 0 }

/-- The spelling of a double with digits at and above `10 ^ power`, if one of
its two neighbours on that grid lies in the interval. -/
def onGrid? (i : Interval) (power : Int) : Option Nat :=
  let side := i.unit.1 * Nat.pow 10 (-power).toNat
  let step := i.unit.2 * Nat.pow 10 power.toNat
  let below := i.mid * side / step
  let hits (c : Nat) : Bool :=
    if i.closed then i.low * side ≤ c * step && c * step ≤ i.high * side
    else i.low * side < c * step && c * step < i.high * side
  let gapBelow := i.mid * side - below * step
  let gapAbove := (below + 1) * step - i.mid * side
  match hits below, hits (below + 1) with
  | true, true =>
      if gapBelow < gapAbove then some below
      else if gapAbove < gapBelow then some (below + 1)
      else some (below + below % 2)
  | true, false => some below
  | false, true => some (below + 1)
  | false, false => none

/-- The shortest digits of a non-zero double and the exponent of ten of the
last of them.  Seventeen digits always suffice. -/
def shortest (x : Binary64) : Nat × Int :=
  let i := x.interval
  let first := decimalExponent x.ratio.1 x.ratio.2
  let found := (List.range 17).findSome? fun (n : Nat) =>
    let last := first - (n : Int)
    (onGrid? i last).map fun digits => (digits, last)
  found.getD (0, 0)

/-- A run of digits without the zeros at its end. -/
def dropZeros (digits : Text) : Text :=
  (digits.reverse.dropWhile (· == '0')).reverse

/-- Digits whose first one stands at `10 ^ first`: positional from `1e-5` up to
sixteen digits before the point, else with an exponent that carries its sign. -/
def layout (digits : Text) (first : Int) : Text :=
  if 0 ≤ first ∧ first ≤ 15 then
    let whole := first.toNat + 1
    let padded := digits ++ List.replicate (whole - digits.length) '0'
    let fraction := digits.drop whole
    padded.take whole ++ '.' :: (if fraction = [] then ['0'] else fraction)
  else if -5 ≤ first ∧ first < 0 then
    "0.".toList ++ List.replicate ((-first).toNat - 1) '0' ++ digits
  else
    let mantissa :=
      match digits with
      | d :: e :: rest => d :: '.' :: e :: rest
      | short => short
    mantissa ++ 'e' :: (if first < 0 then Text.ofInt first else '+' :: Text.ofInt first)

/-- The written form of a double. -/
def toText (x : Binary64) : Text :=
  let sign := if x.negative then ['-'] else []
  if x.significand = 0 then
    sign ++ "0.0".toList
  else
    let (digits, last) := x.shortest
    let spelled := Text.ofNat digits
    sign ++ layout (dropZeros spelled) (last + spelled.length - 1)

end Binary64
end Json
end GhciBridge
