import BoundSql.Decimal.Shortest
/-!
# Rounding a decimal to binary

A decimal becomes the nearest floating-point number, a tie going to the even
significand.  What is too small becomes zero, and what is too large has no
number.
-/

namespace BoundSql

/-- The whole number nearest to a quotient, a tie going to the even one. -/
def roundQuotient (dividend divisor : Nat) : Nat :=
  let below := dividend / divisor
  let twice := 2 * (dividend % divisor)
  if twice < divisor then below
  else if divisor < twice then below + 1
  else below + below % 2

namespace Decimal

/-- The bits, without a sign, of the number nearest to a positive quotient.  The
significand is the quotient in units of the largest power of two that leaves 53
bits, or of the least power that there is. -/
def nearestBits (numerator denominator : Nat) : Nat :=
  let estimate := max Binary64.leastExponent
    ((numerator.log2 : Int) - denominator.log2 - 53)
  let inUnits (exponent : Int) : Nat × Nat :=
    (numerator * Nat.pow 2 (-exponent).toNat, denominator * Nat.pow 2 exponent.toNat)
  let exponent :=
    if Nat.pow 2 53 ≤ (inUnits estimate).1 / (inUnits estimate).2 then estimate + 1 else estimate
  let significand := roundQuotient (inUnits exponent).1 (inUnits exponent).2
  (exponent - Binary64.leastExponent).toNat * Nat.pow 2 52 + significand

/-- The floating-point number nearest to a decimal with a sign, if there is one.
Decimals far outside the range are told by their order alone. -/
def toBinary64? (negative : Bool) (decimal : Decimal) : Option Binary64 :=
  let order := (Nat.toDigits 10 decimal.digits).length + decimal.exponent
  if decimal.digits = 0 ∨ order < -330 then
    some (Binary64.ofFields negative 0 0)
  else if 310 < order then
    none
  else
    let bits := nearestBits (decimal.digits * Nat.pow 10 decimal.exponent.toNat)
      (Nat.pow 10 (-decimal.exponent).toNat)
    if 2047 * Nat.pow 2 52 ≤ bits then
      none
    else
      some (Binary64.ofFields negative 0 bits)

end Decimal

end BoundSql
