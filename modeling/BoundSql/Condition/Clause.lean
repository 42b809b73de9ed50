import BoundSql.Column
import BoundSql.Value
import BoundSql.Text.Blank
/-!
# Clauses of a condition

The clauses that hold no statement of their own, and the words that connect and
compare.
-/

namespace BoundSql

inductive Conjunction where
  | and
  | or
  | andNot
  | orNot
deriving DecidableEq, Inhabited

namespace Conjunction

def keyword : Conjunction → String
  | .and => "AND"
  | .or => "OR"
  | .andNot => "AND NOT"
  | .orNot => "OR NOT"

/-- The conjunction that a text names, in letters of either case and with any
blanks around its words. -/
def parse (text : String) : Except Error Conjunction :=
  match Text.phrase text with
  | "AND" => .ok .and
  | "OR" => .ok .or
  | "AND NOT" => .ok .andNot
  | "OR NOT" => .ok .orNot
  | _ => .error (.invalidConjunction text)

end Conjunction

inductive Relation where
  | equals
  | notEquals
  | greater
  | greaterOrEqual
  | less
  | lessOrEqual
  | like
  | notLike
deriving DecidableEq

def Relation.operator : Relation → String
  | .equals => "="
  | .notEquals => "<>"
  | .greater => ">"
  | .greaterOrEqual => ">="
  | .less => "<"
  | .lessOrEqual => "<="
  | .like => "LIKE"
  | .notLike => "NOT LIKE"

def notIf (negated : Bool) : String :=
  if negated then "NOT " else ""

structure RangeClause where
  subject : Column
  low : Value
  high : Value
  negated : Bool

structure MembershipClause where
  subject : Column
  values : List Value
  negated : Bool

structure NullClause where
  subject : Column
  negated : Bool
deriving DecidableEq

/-- A column has a value, where null counts as zero. -/
structure BitClause where
  subject : Column
  value : Value

inductive SearchMode where
  | natural
  | boolean
  | expansion
deriving DecidableEq

def SearchMode.modifier : SearchMode → String
  | .natural => ""
  | .boolean => " IN BOOLEAN MODE"
  | .expansion => " WITH QUERY EXPANSION"

structure SearchClause where
  columns : List Column
  values : List Value
  mode : SearchMode

/-- What is searched for: the value if there is just one, otherwise the plain
texts of the values with a space between two of them. -/
def SearchClause.subject (clause : SearchClause) : Value :=
  match clause.values with
  | [single] => single
  | values => .text (" ".intercalate (values.map Value.display))

end BoundSql
