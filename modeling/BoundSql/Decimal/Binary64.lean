/-!
# Binary floating-point numbers of 64 bits

A number is kept as its bits: a sign, eleven bits of exponent and 52 of
fraction.  Arithmetic is not needed here, only the exact value that the bits
stand for, the comparison of two numbers, and the widening of a number of 32
bits, which is exact.
-/

namespace BoundSql

structure Binary64 where
  bits : UInt64
deriving DecidableEq, Inhabited

namespace Binary64

/-- The exact size of a number, without its sign.  A finite number is
`significand * 2 ^ exponent`. -/
inductive Size where
  | notANumber
  | infinite
  | finite (significand : Nat) (exponent : Int)
deriving DecidableEq

/-- The exponent that the numbers next to zero are counted in. -/
def leastExponent : Int := -1074

def ofFields (negative : Bool) (exponent fraction : Nat) : Binary64 :=
  ⟨UInt64.ofNat ((if negative then Nat.pow 2 63 else 0) + exponent * Nat.pow 2 52 + fraction)⟩

def isNegative (number : Binary64) : Bool :=
  Nat.pow 2 63 ≤ number.bits.toNat

def exponentField (number : Binary64) : Nat :=
  number.bits.toNat / Nat.pow 2 52 % Nat.pow 2 11

def fraction (number : Binary64) : Nat :=
  number.bits.toNat % Nat.pow 2 52

/-- The size that the exponent and fraction stand for.  A number whose exponent
field is zero has no hidden leading bit. -/
def size (number : Binary64) : Size :=
  if number.exponentField = 2047 then
    if number.fraction = 0 then .infinite else .notANumber
  else if number.exponentField = 0 then
    .finite number.fraction leastExponent
  else
    .finite (Nat.pow 2 52 + number.fraction) (leastExponent + (number.exponentField - 1))

/-- Equality of numbers, which is not equality of bits: the two zeros are equal,
and what is not a number differs even from itself. -/
def equals (left right : Binary64) : Bool :=
  match left.size, right.size with
  | .notANumber, _ => false
  | _, .notANumber => false
  | .finite 0 _, .finite 0 _ => true
  | _, _ => left == right

/-- The same number in 64 bits as the given 32 bits stand for: one bit of sign,
eight of exponent and 23 of fraction. -/
def ofBinary32 (single : UInt32) : Binary64 :=
  let negative : Bool := Nat.pow 2 31 ≤ single.toNat
  let exponent := single.toNat / Nat.pow 2 23 % Nat.pow 2 8
  let fraction := single.toNat % Nat.pow 2 23
  if exponent = 255 then
    ofFields negative 2047 (fraction * Nat.pow 2 29)
  else if exponent ≠ 0 then
    ofFields negative (exponent + 896) (fraction * Nat.pow 2 29)
  else if fraction = 0 then
    ofFields negative 0 0
  else
    let top := fraction.log2
    ofFields negative (top + 874) ((fraction - Nat.pow 2 top) * Nat.pow 2 (52 - top))

end Binary64

end BoundSql
