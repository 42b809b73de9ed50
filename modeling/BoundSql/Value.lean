import BoundSql.Json.Reader
/-!
# Values

A value is what a statement binds to a placeholder.  Statements bind values in
normal form, in which the empty text counts as null and a truth value as one or
zero.
-/

namespace BoundSql

/-- A value that can be bound. -/
inductive Value where
  | null
  | bool (value : Bool)
  | integer (value : Int)
  | real (value : Binary64)
  | text (value : String)
deriving DecidableEq, Inhabited

namespace Value

def isNull : Value → Bool
  | .null => true
  | _ => false

/-- The form in which a value is bound. -/
def normalized : Value → Value
  | .bool value => .integer (if value then 1 else 0)
  | .text value => if value.isEmpty then .null else .text value
  | other => other

@[simp] theorem normalized_normalized (value : Value) :
    value.normalized.normalized = value.normalized := by
  cases value with
  | text value => by_cases empty : value.isEmpty <;> simp [normalized, empty]
  | _ => rfl

/-- The plain text of a value, with which several values of a search are put
together. -/
def display : Value → String
  | .null => "NULL"
  | .bool value => if value then "1" else "0"
  | .integer value => toString value
  | .real value => value.plainText
  | .text value => value

/-- Equality of values, in which numbers compare as numbers. -/
def equals : Value → Value → Bool
  | .real left, .real right => left.equals right
  | left, right => left == right

/-- The value that a JSON document stands for.  An array or object is the text of
its compact form. -/
def ofJson : Json → Value
  | .null => .null
  | .bool value => .bool value
  | .integer value => .integer value
  | .real value => .real value
  | .text value => .text value
  | .array items => .text (Json.array items).print
  | .object members => .text (Json.object members).print

/-- The JSON document of a value. -/
def toJson : Value → Json
  | .null => .null
  | .bool value => .bool value
  | .integer value => .integer value
  | .real value => .real value
  | .text value => .text value

end Value

end BoundSql
