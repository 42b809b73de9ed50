import BoundSql.Decimal.Binary64
/-!
# The shortest decimal that reads back

The reals that round to a floating-point number form an interval around it.  Its
ends belong to it exactly when the significand is even.  Among the decimals in
the interval, those with the fewest digits are sought, and of these the one
closest to the number.

The search walks down the grids of multiples of powers of ten, from a grid
coarser than the number itself, and stops at the first grid with a point in the
interval.  On each grid only the two neighbours of the number can be such a
point.
-/

namespace BoundSql

/-- The decimal number `digits * 10 ^ exponent`. -/
structure Decimal where
  digits : Nat
  exponent : Int
deriving DecidableEq, Repr

inductive Tie where
  | up
  | even
deriving DecidableEq

def Tie.choose (tie : Tie) (below : Nat) : Nat :=
  match tie with
  | .up => below + 1
  | .even => below + below % 2

/-- The interval of reals that round to one floating-point number.  The number
and the ends of the interval are given over a common denominator. -/
structure Decimal.Interval where
  low : Nat
  middle : Nat
  high : Nat
  denominator : Nat
  closed : Bool

namespace Decimal.Interval

/-- The interval around `significand * 2 ^ exponent`.  It reaches half a unit to
either side, but only a quarter of one downwards where the spacing of the
numbers below is half as wide. -/
def around (significand : Nat) (exponent : Int) : Interval :=
  let narrow := significand = Nat.pow 2 52 ∧ Binary64.leastExponent < exponent
  let unit := Nat.pow 2 (exponent - 2).toNat
  { low := (4 * significand - if narrow then 1 else 2) * unit
    middle := 4 * significand * unit
    high := (4 * significand + 2) * unit
    denominator := Nat.pow 2 (2 - exponent).toNat
    closed := significand % 2 == 0 }

def contains (interval : Interval) (numerator denominator : Nat) : Bool :=
  let low := interval.low * denominator
  let point := numerator * interval.denominator
  let high := interval.high * denominator
  if interval.closed then
    low ≤ point && point ≤ high
  else
    low < point && point < high

/-- The multiple of `10 ^ exponent` in the interval that is closest to its
middle, if there is one, as the number of times the power is taken. -/
def closest? (interval : Interval) (tie : Tie) (exponent : Int) : Option Nat :=
  let scale := Nat.pow 10 exponent.toNat
  let denominator := Nat.pow 10 (-exponent).toNat
  let dividend := interval.middle * denominator
  let divisor := interval.denominator * scale
  let below := dividend / divisor
  let twice := 2 * (dividend % divisor)
  match interval.contains (below * scale) denominator,
      interval.contains ((below + 1) * scale) denominator with
  | false, false => none
  | true, false => some below
  | false, true => some (below + 1)
  | true, true =>
    if twice < divisor then some below
    else if divisor < twice then some (below + 1)
    else some (tie.choose below)

/-- The closest decimal on the first grid that meets the interval, going down
from the given exponent. -/
def search (interval : Interval) (tie : Tie) : (steps : Nat) → (exponent : Int) → Decimal
  | 0, exponent => ⟨0, exponent⟩
  | steps + 1, exponent =>
    match interval.closest? tie exponent with
    | some digits => ⟨digits, exponent⟩
    | none => interval.search tie steps (exponent - 1)

end Decimal.Interval

/-- The decimal with the fewest digits that rounds to `significand * 2 ^ exponent`,
and the closest to it of those.  The search starts above the first digit and goes on
to 350 places after the point, where every number has been told from its
neighbours. -/
def Decimal.shortest (tie : Tie) (significand : Nat) (exponent : Int) : Decimal :=
  if significand = 0 then
    ⟨0, 0⟩
  else
    let interval := Interval.around significand exponent
    let whole := (Nat.toDigits 10 (interval.middle / interval.denominator)).length
    interval.search tie (whole + 350) whole

end BoundSql
