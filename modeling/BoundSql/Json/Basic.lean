import BoundSql.Decimal.Layout
/-!
# JSON documents

A document is a tree of values.  The members of an object are printed in the order
in which they are held; `Json.insert` keeps them in the order of their keys, each
key once.  The printed form is compact: there is no blank outside a text.
-/

namespace BoundSql

/-- A JSON document.  A number written without a point or exponent is a whole
number, as far as 64 bits reach. -/
inductive Json where
  | null
  | bool (value : Bool)
  | integer (value : Int)
  | real (value : Binary64)
  | text (value : String)
  | array (items : List Json)
  | object (members : List (String × Json))

namespace Json

instance : Inhabited Json := ⟨.null⟩

/-- Puts a member into its place among the members of an object.  A member with
the same key is replaced. -/
def insert (key : String) (value : Json) :
    List (String × Json) → List (String × Json)
  | [] => [(key, value)]
  | (other, held) :: rest =>
    if key = other then
      (key, value) :: rest
    else if key < other then
      (key, value) :: (other, held) :: rest
    else
      (other, held) :: insert key value rest

private def hexDigits (code width : Nat) : List Char :=
  let digits := Nat.toDigits 16 code
  List.replicate (width - digits.length) '0' ++ digits

/-- The characters that stand for one character inside a text.  Only quotes,
backslashes and the control characters of ASCII are escaped. -/
def escape (char : Char) : List Char :=
  match char with
  | '"' => ['\\', '"']
  | '\\' => ['\\', '\\']
  | '\x08' => ['\\', 'b']
  | '\t' => ['\\', 't']
  | '\n' => ['\\', 'n']
  | '\x0C' => ['\\', 'f']
  | '\r' => ['\\', 'r']
  | other =>
    if other.toNat < 0x20 then
      '\\' :: 'u' :: hexDigits other.toNat 4
    else
      [other]

def quote (text : String) : String :=
  String.ofList ('"' :: (text.toList.flatMap escape ++ ['"']))

mutual

def print : Json → String
  | .null => "null"
  | .bool value => if value then "true" else "false"
  | .integer value => toString value
  | .real value => value.jsonText
  | .text value => quote value
  | .array items => "[" ++ ",".intercalate (printItems items) ++ "]"
  | .object members =>
    "\x7b" ++ ",".intercalate (printMembers members) ++ "\x7d"

def printItems : List Json → List String
  | [] => []
  | item :: rest => item.print :: printItems rest

def printMembers : List (String × Json) → List String
  | [] => []
  | (key, value) :: rest => (quote key ++ ":" ++ value.print) :: printMembers rest

end

end Json

end BoundSql
