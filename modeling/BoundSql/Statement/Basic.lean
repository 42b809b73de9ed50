import BoundSql.Condition.Clause
import BoundSql.OrderBy
/-!
# Conditions and SELECT statements

A condition can compare with a SELECT and a SELECT holds conditions, so the two
are defined together.
-/

namespace BoundSql

inductive JoinType where
  | plain
  | inner
  | left
  | right
  | cross
deriving DecidableEq

def JoinType.keyword : JoinType → String
  | .plain => "JOIN"
  | .inner => "INNER JOIN"
  | .left => "LEFT JOIN"
  | .right => "RIGHT JOIN"
  | .cross => "CROSS JOIN"

structure ValueColumn where
  value : Value
  aliasName : String

/-- A column that returns what a function gives.  Without arguments the function
is written alone. -/
structure FunctionColumn where
  function : String
  arguments : List String
  aliasName : String
deriving DecidableEq

/-- What a counting SELECT counts: a column, or rows. -/
structure Count where
  column : Option Column
  aliasName : Option String
deriving DecidableEq

structure Window where
  start : Option Nat := none
  count : Option Nat := none
deriving DecidableEq

def Window.isSet (window : Window) : Bool :=
  window.start.isSome || window.count.isSome

mutual

inductive Operand where
  | value (value : Value)
  | column (column : Column)
  | select (select : Select)

structure ComparisonClause where
  subject : Column
  relation : Relation
  target : Operand

/-- A SELECT returns rows, or returns none. -/
structure ExistenceClause where
  select : Select
  negated : Bool

/-- A condition: clauses of nine kinds, connected by one conjunction.  Bare
column names belong to its table. -/
structure Condition where
  table : Option Table := none
  conjunction : Conjunction := .and
  comparisons : List ComparisonClause := []
  ranges : List RangeClause := []
  memberships : List MembershipClause := []
  nullChecks : List NullClause := []
  bits : List BitClause := []
  searches : List SearchClause := []
  existences : List ExistenceClause := []
  literals : List String := []
  subconditions : List Condition := []

structure QueryColumn where
  select : Select
  aliasName : String

/-- A SELECT statement.  One with a join type is a join of another SELECT, on the
condition `link`. -/
structure Select where
  table : Option Table := none
  comment : Option String := none
  joinType : Option JoinType := none
  link : Condition
  columns : Option (List Column) := none
  queryColumns : List QueryColumn := []
  valueColumns : List ValueColumn := []
  functionColumns : List FunctionColumn := []
  count : Option Count := none
  distinct : Bool := false
  joins : List Select := []
  filter : Option Condition := none
  having : Option Condition := none
  groupBy : List Column := []
  orderBy : List OrderBy := []
  window : Window := {}

end

end BoundSql
