import BoundSql.Statement.Combined
import BoundSql.Statement.Data
/-!
# Statements

A statement of any kind, and what can be asked of all of them.
-/

namespace BoundSql

inductive Statement where
  | select (statement : Select)
  | insert (statement : Insert)
  | update (statement : Update)
  | delete (statement : Delete)
  | combination (statement : Combination)
  | difference (statement : Difference)

namespace Statement

def kind : Statement → Kind
  | .select _ => .select
  | .insert _ => .insert
  | .update _ => .update
  | .delete _ => .delete
  | .combination statement => statement.combiner.kind
  | .difference _ => .minus

def comment : Statement → Option String
  | .select statement => statement.comment
  | .insert statement => statement.comment
  | .update statement => statement.comment
  | .delete statement => statement.comment
  | .combination statement => statement.comment
  | .difference statement => statement.comment

/-- The SELECT statements that a set operation combines.  Other statements combine
none. -/
def members : Statement → List Select
  | .combination statement => statement.members
  | .difference statement => statement.members
  | .select _ | .insert _ | .update _ | .delete _ => []

def table? : Statement → Except Error (Option Table)
  | .select statement => .ok statement.table
  | .insert statement => .ok statement.table
  | .update statement => .ok statement.table
  | .delete statement => .ok statement.table
  | .combination statement => .error (.unsupported statement.combiner.kind .table)
  | .difference _ => .error (.unsupported .minus .table)

def filter? : Statement → Except Error (Option Condition)
  | .select statement => .ok statement.filter
  | .insert _ => .error (.unsupported .insert .filter)
  | .update statement => .ok statement.filter
  | .delete statement => .ok statement.filter
  | .combination statement => .error (.unsupported statement.combiner.kind .filter)
  | .difference _ => .error (.unsupported .minus .filter)

end Statement

end BoundSql
