import BoundSql.Json.Basic
import BoundSql.Decimal.Rounding
/-!
# Reading JSON

A reader takes the beginning of a text and gives what it read together with the
rest.  Nesting is bounded by the length of the text, so reading ends.
-/

namespace BoundSql.Json.Reader

def isBlank (char : Char) : Bool :=
  char == ' ' || char == '\t' || char == '\n' || char == '\r'

def skipBlanks (chars : List Char) : List Char :=
  chars.dropWhile isBlank

def hexValue? (char : Char) : Option Nat :=
  if '0' ≤ char ∧ char ≤ '9' then some (char.toNat - '0'.toNat)
  else if 'a' ≤ char ∧ char ≤ 'f' then some (char.toNat - 'a'.toNat + 10)
  else if 'A' ≤ char ∧ char ≤ 'F' then some (char.toNat - 'A'.toNat + 10)
  else none

def unit? : List Char → Option (Nat × List Char)
  | a :: b :: c :: d :: rest => do
    let digits ← [a, b, c, d].mapM hexValue?
    some (digits.foldl (fun value digit => 16 * value + digit) 0, rest)
  | _ => none

/-- The character of an escape with a code: one unit of sixteen bits, or two
where the first is a leading surrogate. -/
def escapedCode? (chars : List Char) : Option (Char × List Char) := do
  let (first, rest) ← unit? chars
  if 0xD800 ≤ first ∧ first < 0xDC00 then
    match rest with
    | '\\' :: 'u' :: rest => do
      let (second, rest) ← unit? rest
      if 0xDC00 ≤ second ∧ second < 0xE000 then
        some (Char.ofNat (0x10000 + (first - 0xD800) * 0x400 + (second - 0xDC00)), rest)
      else
        none
    | _ => none
  else if 0xDC00 ≤ first ∧ first < 0xE000 then
    none
  else
    some (Char.ofNat first, rest)

def escaped? : List Char → Option (Char × List Char)
  | '"' :: rest => some ('"', rest)
  | '\\' :: rest => some ('\\', rest)
  | '/' :: rest => some ('/', rest)
  | 'b' :: rest => some ('\x08', rest)
  | 'f' :: rest => some ('\x0C', rest)
  | 'n' :: rest => some ('\n', rest)
  | 'r' :: rest => some ('\r', rest)
  | 't' :: rest => some ('\t', rest)
  | 'u' :: rest => escapedCode? rest
  | _ => none

/-- The characters of a text up to its closing quote, in at most `steps` steps. -/
def textBody? : (steps : Nat) → List Char → Option (List Char × List Char)
  | 0, _ => none
  | _ + 1, [] => none
  | _ + 1, '"' :: rest => some ([], rest)
  | steps + 1, '\\' :: rest => do
    let (char, rest) ← escaped? rest
    let (chars, rest) ← textBody? steps rest
    some (char :: chars, rest)
  | steps + 1, char :: rest => do
    if char.toNat < 0x20 then none
    let (chars, rest) ← textBody? steps rest
    some (char :: chars, rest)

def text? (chars : List Char) : Option (String × List Char) := do
  let (body, rest) ← textBody? (chars.length + 1) chars
  some (String.ofList body, rest)

def digitsValue (digits : List Char) : Nat :=
  digits.foldl (fun value digit => 10 * value + (digit.toNat - '0'.toNat)) 0

/-- A number with a sign, digits before and after a point, and an exponent.
Without a point or exponent it is whole where 64 bits hold it; a zero with a
sign is not. -/
def numberOf? (negative plain : Bool) (whole fraction : List Char) (exponent : Int) :
    Option Json :=
  let value : Int := if negative then -digitsValue whole else digitsValue whole
  if plain && -Int.pow 2 63 ≤ value && value < Int.pow 2 64 && !(negative && value == 0) then
    some (.integer value)
  else
    let decimal : Decimal := ⟨digitsValue (whole ++ fraction), exponent - fraction.length⟩
    (decimal.toBinary64? negative).map .real

def fraction? : List Char → Option (List Char × List Char)
  | '.' :: rest =>
    let digits := rest.takeWhile Char.isDigit
    if digits.isEmpty then none else some (digits, rest.dropWhile Char.isDigit)
  | rest => some ([], rest)

def exponentDigits? (negative : Bool) (chars : List Char) : Option (Int × List Char) :=
  let digits := chars.takeWhile Char.isDigit
  if digits.isEmpty then
    none
  else
    let value : Int := digitsValue digits
    some (if negative then -value else value, chars.dropWhile Char.isDigit)

def exponent? : List Char → Option (Int × List Char)
  | 'e' :: '-' :: rest | 'E' :: '-' :: rest => exponentDigits? true rest
  | 'e' :: '+' :: rest | 'E' :: '+' :: rest => exponentDigits? false rest
  | 'e' :: rest | 'E' :: rest => exponentDigits? false rest
  | rest => some (0, rest)

/-- A number, read after its sign.  No zero stands before another digit. -/
def number? (negative : Bool) (chars : List Char) : Option (Json × List Char) := do
  let whole := chars.takeWhile Char.isDigit
  let afterWhole := chars.dropWhile Char.isDigit
  if whole.isEmpty || (whole.head? == some '0' && 1 < whole.length) then none
  let (fraction, afterFraction) ← fraction? afterWhole
  let (exponent, rest) ← exponent? afterFraction
  let plain := afterWhole.length == rest.length
  let number ← numberOf? negative plain whole fraction exponent
  some (number, rest)

mutual

/-- A value, with at most `depth` values inside one another. -/
def value? : (depth : Nat) → List Char → Option (Json × List Char)
  | 0, _ => none
  | depth + 1, chars =>
    match skipBlanks chars with
    | 'n' :: 'u' :: 'l' :: 'l' :: rest => some (.null, rest)
    | 't' :: 'r' :: 'u' :: 'e' :: rest => some (.bool true, rest)
    | 'f' :: 'a' :: 'l' :: 's' :: 'e' :: rest => some (.bool false, rest)
    | '"' :: rest => do
      let (content, rest) ← text? rest
      some (.text content, rest)
    | '[' :: rest =>
      match skipBlanks rest with
      | ']' :: rest => some (.array [], rest)
      | _ => do
        let (items, rest) ← items? depth rest
        some (.array items, rest)
    | '\x7b' :: rest =>
      match skipBlanks rest with
      | '\x7d' :: rest => some (.object [], rest)
      | _ => do
        let (members, rest) ← members? depth [] rest
        some (.object members, rest)
    | '-' :: rest => number? true rest
    | rest => number? false rest

def items? : (depth : Nat) → List Char → Option (List Json × List Char)
  | 0, _ => none
  | depth + 1, chars => do
    let (item, rest) ← value? depth chars
    match skipBlanks rest with
    | ',' :: rest => do
      let (items, rest) ← items? depth rest
      some (item :: items, rest)
    | ']' :: rest => some ([item], rest)
    | _ => none

/-- The members of an object, up to its closing brace.  Of two members with one
key the later counts. -/
def members? : (depth : Nat) → List (String × Json) → List Char →
    Option (List (String × Json) × List Char)
  | 0, _, _ => none
  | depth + 1, found, chars =>
    match skipBlanks chars with
    | '"' :: rest => do
      let (key, rest) ← text? rest
      match skipBlanks rest with
      | ':' :: rest => do
        let (value, rest) ← value? depth rest
        let found := insert key value found
        match skipBlanks rest with
        | ',' :: rest => members? depth found rest
        | '\x7d' :: rest => some (found, rest)
        | _ => none
      | _ => none
    | _ => none

end

end BoundSql.Json.Reader

namespace BoundSql.Json

def read? (text : String) : Option Json := do
  let chars := text.toList
  let (document, rest) ← Reader.value? (2 * chars.length + 2) chars
  if (Reader.skipBlanks rest).isEmpty then some document else none

end BoundSql.Json
