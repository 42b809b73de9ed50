import BoundSql.Toml.Basic
import BoundSql.Decimal.Rounding
/-!
# Numbers, dates and truth values in TOML

What is not a text, an array or a table is told from the run of its characters.
-/

namespace BoundSql.Toml.Scalar

def digitValue? (base : Nat) (char : Char) : Option Nat :=
  let value :=
    if '0' ≤ char ∧ char ≤ '9' then char.toNat - '0'.toNat
    else if 'a' ≤ char ∧ char ≤ 'f' then char.toNat - 'a'.toNat + 10
    else if 'A' ≤ char ∧ char ≤ 'F' then char.toNat - 'A'.toNat + 10
    else base
  if value < base then some value else none

/-- The value of digits that go on from a value.  An underscore stands only
between two digits. -/
def digitsFrom? (base : Nat) : (value : Nat) → List Char → Option Nat
  | value, [] => some value
  | value, '_' :: char :: rest => do
    digitsFrom? base (base * value + (← digitValue? base char)) rest
  | value, char :: rest => do
    digitsFrom? base (base * value + (← digitValue? base char)) rest

def digits? (base : Nat) : List Char → Option Nat
  | [] => none
  | '_' :: _ => none
  | chars => digitsFrom? base 0 chars

/-- The value of decimal digits without a superfluous zero before them. -/
def decimal? : List Char → Option Nat
  | '0' :: _ :: _ => none
  | chars => digits? 10 chars

def whole? : List Char → Option Int
  | '0' :: 'x' :: rest => (digits? 16 rest).map Int.ofNat
  | '0' :: 'o' :: rest => (digits? 8 rest).map Int.ofNat
  | '0' :: 'b' :: rest => (digits? 2 rest).map Int.ofNat
  | '+' :: rest => (decimal? rest).map Int.ofNat
  | '-' :: rest => (decimal? rest).map fun value => -(value : Int)
  | chars => (decimal? chars).map Int.ofNat

/-- A whole number, which 128 bits have to hold, with a sign or without. -/
def integer? (run : List Char) : Option Toml :=
  (whole? run).map fun value =>
    if -Int.pow 2 127 ≤ value ∧ value < Int.pow 2 128 then .integer value else .unusable

private def withoutSign : List Char → List Char
  | '+' :: rest => rest
  | '-' :: rest => rest
  | chars => chars

/-- Whether each underscore stands between two digits of any base. -/
def joinsDigits : List Char → Bool
  | [] => true
  | [char] => char != '_'
  | first :: second :: rest =>
    (first != '_' || (digitValue? 16 second).isSome) &&
      (second != '_' || (digitValue? 16 first).isSome) && joinsDigits (second :: rest)

/-- Whether a run of characters is no number, though it can only be meant as a
whole one: the mark of a base alone, or decimal digits that start with no zero and
after an underscore anything, even a tab, but a space and what a fraction or an
exponent begins with. -/
def isMisshapen (run : List Char) : Bool :=
  let chars := withoutSign run
  let afterDigits := chars.dropWhile Char.isDigit
  run == ['0', 'x'] || run == ['0', 'o'] || run == ['0', 'b'] ||
    (chars.head? != some '0' && afterDigits.head? == some '_' &&
      !(afterDigits.any fun char => [' ', '.', 'e', 'E'].contains char) &&
      afterDigits.length < chars.length && joinsDigits chars)

/-- The value of the digits after a point and how many there are, or zero of them
where nothing follows. -/
def fraction? : List Char → Option (Nat × Nat)
  | [] => some (0, 0)
  | _ :: digits => do some (← digits? 10 digits, digits.countP (· != '_'))

/-- The exponent after its mark, or zero where nothing follows. -/
def exponent? : List Char → Option Int
  | [] => some 0
  | _ :: '-' :: digits => (digits? 10 digits).map fun value => -(value : Int)
  | _ :: '+' :: digits => (digits? 10 digits).map Int.ofNat
  | _ :: digits => (digits? 10 digits).map Int.ofNat

def pointed? (chars : List Char) : Option Decimal := do
  let isMark (char : Char) : Bool := char == 'e' || char == 'E'
  let significand := chars.takeWhile fun char => !isMark char
  let afterSignificand := chars.dropWhile fun char => !isMark char
  let afterWhole := significand.dropWhile (· != '.')
  if afterWhole.isEmpty && afterSignificand.isEmpty then none
  let whole ← decimal? (significand.takeWhile (· != '.'))
  let (fraction, places) ← fraction? afterWhole
  let exponent ← exponent? afterSignificand
  some ⟨whole * Nat.pow 10 places + fraction, exponent - places⟩

/-- A number with a fraction or an exponent, which a floating-point number has to
be close to.  The numbers that are not finite have names. -/
def real? (run : List Char) : Option Toml :=
  let chars := withoutSign run
  if chars == ['i', 'n', 'f'] || chars == ['n', 'a', 'n'] then some .real
  else (pointed? chars).map fun decimal =>
    if (decimal.toBinary64? false).isSome then .real else .unusable

/-- A number of so many digits, within bounds, and what follows it. -/
def field? (width low high : Nat) (chars : List Char) : Option (Nat × List Char) := do
  let digits := chars.take width
  if digits.length = width ∧ digits.all Char.isDigit then
    let value ← digits? 10 digits
    if low ≤ value ∧ value ≤ high then some (value, chars.drop width) else none
  else
    none

/-- Whether February has a day more: in every fourth year, and of the full
centuries in every fourth one. -/
def isLeap (year : Nat) : Bool :=
  year % 4 == 0 && (year % 100 != 0 || year % 400 == 0)

def daysIn (year month : Nat) : Nat :=
  if month = 2 then if isLeap year then 29 else 28
  else if month = 4 ∨ month = 6 ∨ month = 9 ∨ month = 11 then 30
  else 31

def date? (chars : List Char) : Option (List Char) := do
  let (year, '-' :: rest) ← field? 4 0 9999 chars | none
  let (month, '-' :: rest) ← field? 2 1 12 rest | none
  let (_, rest) ← field? 2 1 (daysIn year month) rest
  some rest

/-- A time of day, and what follows it.  The seconds can be left out. -/
def time? (chars : List Char) : Option (List Char) := do
  let (_, ':' :: rest) ← field? 2 0 23 chars | none
  let (_, rest) ← field? 2 0 59 rest
  match rest with
  | ':' :: rest =>
    let (_, rest) ← field? 2 0 60 rest
    match rest with
    | '.' :: rest =>
      if (rest.takeWhile Char.isDigit).isEmpty then none
      else some (rest.dropWhile Char.isDigit)
    | rest => some rest
  | rest => some rest

/-- The distance from universal time after its sign, and what follows it. -/
def distance? (chars : List Char) : Option (List Char) := do
  let (_, ':' :: rest) ← field? 2 0 23 chars | none
  let (_, rest) ← field? 2 0 59 rest
  some rest

def zone? : List Char → Option (List Char)
  | 'Z' :: rest => some rest
  | 'z' :: rest => some rest
  | '+' :: rest => distance? rest
  | '-' :: rest => distance? rest
  | rest => some rest

/-- Whether a run of characters is a date, a time or both. -/
def isMoment (chars : List Char) : Bool :=
  time? chars == some [] ||
    match date? chars with
    | none => false
    | some [] => true
    | some (separator :: rest) =>
      (separator == 'T' || separator == 't' || separator == ' ') &&
        (time? rest).bind zone? == some []

/-- The value of a run of characters. -/
def ofRun? (run : List Char) : Option Toml :=
  if run = ['t', 'r', 'u', 'e'] then some (.bool true)
  else if run = ['f', 'a', 'l', 's', 'e'] then some (.bool false)
  else if isMoment run then some .moment
  else
    match (integer? run).orElse fun _ => real? run with
    | some value => some value
    | none => if isMisshapen run then some .unusable else none

end BoundSql.Toml.Scalar
