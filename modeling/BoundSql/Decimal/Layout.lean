import BoundSql.Decimal.Shortest
/-!
# Decimal layouts

A decimal is written positionally, with as many zeros as it takes, or
scientifically, with one digit before the point and an exponent with a sign.
-/

namespace BoundSql.Decimal

def figures (decimal : Decimal) : List Char :=
  Nat.toDigits 10 decimal.digits

/-- The exponent of the power of ten at the first digit. -/
def order (decimal : Decimal) : Int :=
  decimal.figures.length - 1 + decimal.exponent

private def zeros (count : Nat) : List Char :=
  List.replicate count '0'

/-- A whole number without a point, any other with at least one digit on either
side of it. -/
def positional (decimal : Decimal) : List Char :=
  let figures := decimal.figures
  if 0 ≤ decimal.exponent then
    figures ++ zeros decimal.exponent.toNat
  else
    let places := (-decimal.exponent).toNat
    if places < figures.length then
      let whole := figures.length - places
      figures.take whole ++ '.' :: figures.drop whole
    else
      '0' :: '.' :: zeros (places - figures.length) ++ figures

/-- One digit, a point and the others if there are others, and the exponent with
its sign. -/
def scientific (decimal : Decimal) : List Char :=
  let rest := decimal.figures.drop 1
  let exponent := Nat.toDigits 10 decimal.order.natAbs
  decimal.figures.take 1 ++ (if rest.isEmpty then [] else '.' :: rest) ++
    'e' :: (if 0 ≤ decimal.order then '+' else '-') :: exponent

end BoundSql.Decimal

namespace BoundSql.Binary64

private def signed (number : Binary64) (digits : List Char) : String :=
  String.ofList (if number.isNegative then '-' :: digits else digits)

/-- The plain text of a number: its shortest decimal, always positional.  A tie
goes up, and a whole number has no point. -/
def plainText (number : Binary64) : String :=
  match number.size with
  | .notANumber => "NaN"
  | .infinite => number.signed ['i', 'n', 'f']
  | .finite significand exponent =>
    number.signed (Decimal.shortest .up significand exponent).positional

/-- The text of a number in a JSON document: its shortest decimal, positional
from `0.00001` up to below `10 ^ 16` and scientific outside.  A tie goes to the
even digit, a whole number keeps the point and one zero, and what is not finite
is `null`. -/
def jsonText (number : Binary64) : String :=
  match number.size with
  | .notANumber => "null"
  | .infinite => "null"
  | .finite significand exponent =>
    let decimal := Decimal.shortest .even significand exponent
    if significand = 0 ∨ (-5 ≤ decimal.order ∧ decimal.order < 16) then
      let digits := decimal.positional
      number.signed (if decimal.exponent < 0 then digits else digits ++ ['.', '0'])
    else
      number.signed decimal.scientific

end BoundSql.Binary64
