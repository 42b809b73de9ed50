import BoundSql.Statement
/-!
# Masked statements

A statement is masked by putting zero in the place of each value that it binds.  The
lists of values of memberships keep their lengths, a search keeps one value of all,
and a window or limit stays set if it is set.  Two statements differ only in bound
values if they are the same when masked.
-/

namespace BoundSql

/-- The value in the place of any other. -/
def Value.mask : Value := .integer 0

def RangeClause.masked (clause : RangeClause) : RangeClause :=
  { clause with low := .mask, high := .mask }

def MembershipClause.masked (clause : MembershipClause) : MembershipClause :=
  { clause with values := clause.values.map fun _ => .mask }

def BitClause.masked (clause : BitClause) : BitClause :=
  { clause with value := .mask }

def SearchClause.masked (clause : SearchClause) : SearchClause :=
  { clause with values := [.mask] }

def ValueColumn.masked (column : ValueColumn) : ValueColumn :=
  { column with value := .mask }

def Window.masked (window : Window) : Window :=
  if window.isSet then { start := some 0, count := some 0 } else {}

def Assignment.masked (assignment : Assignment) : Assignment :=
  { assignment with value := .mask }

mutual

def Operand.masked : Operand → Operand
  | .value _ => .value .mask
  | .column column => .column column
  | .select select => .select select.masked

def ComparisonClause.maskedAll : List ComparisonClause → List ComparisonClause
  | [] => []
  | { subject, relation, target } :: rest =>
    { subject, relation, target := target.masked } :: ComparisonClause.maskedAll rest

def ExistenceClause.maskedAll : List ExistenceClause → List ExistenceClause
  | [] => []
  | { select, negated } :: rest =>
    { select := select.masked, negated } :: ExistenceClause.maskedAll rest

def Condition.masked : Condition → Condition
  | { table, conjunction, comparisons, ranges, memberships, nullChecks, bits, searches,
      existences, literals, subconditions } =>
    { table
      conjunction
      comparisons := ComparisonClause.maskedAll comparisons
      ranges := ranges.map RangeClause.masked
      memberships := memberships.map MembershipClause.masked
      nullChecks
      bits := bits.map BitClause.masked
      searches := searches.map SearchClause.masked
      existences := ExistenceClause.maskedAll existences
      literals
      subconditions := Condition.maskedAll subconditions }

def Condition.maskedAll : List Condition → List Condition
  | [] => []
  | condition :: rest => condition.masked :: Condition.maskedAll rest

def Condition.masked? : Option Condition → Option Condition
  | none => none
  | some condition => some condition.masked

def QueryColumn.maskedAll : List QueryColumn → List QueryColumn
  | [] => []
  | { select, aliasName } :: rest =>
    { select := select.masked, aliasName } :: QueryColumn.maskedAll rest

def Select.masked : Select → Select
  | { table, comment, joinType, link, columns, queryColumns, valueColumns, functionColumns,
      count, distinct, joins, filter, having, groupBy, orderBy, window } =>
    { table
      comment
      joinType
      link := link.masked
      columns
      queryColumns := QueryColumn.maskedAll queryColumns
      valueColumns := valueColumns.map ValueColumn.masked
      functionColumns
      count
      distinct
      joins := Select.maskedAll joins
      filter := Condition.masked? filter
      having := Condition.masked? having
      groupBy
      orderBy
      window := window.masked }

def Select.maskedAll : List Select → List Select
  | [] => []
  | select :: rest => select.masked :: Select.maskedAll rest

end

/-- A statement of any kind with zero in the place of each value. -/
def Statement.masked : Statement → Statement
  | .select statement => .select statement.masked
  | .insert statement =>
    .insert { statement with assignments := statement.assignments.map Assignment.masked }
  | .update statement =>
    .update
      { statement with
        assignments := statement.assignments.map Assignment.masked
        filter := Condition.masked? statement.filter
        limit := statement.limit.map fun _ => 0 }
  | .delete statement =>
    .delete
      { statement with
        filter := Condition.masked? statement.filter
        limit := statement.limit.map fun _ => 0 }
  | .combination statement =>
    .combination { statement with members := Select.maskedAll statement.members }
  | .difference statement =>
    .difference
      { statement with first := statement.first.masked, second := statement.second.masked }

end BoundSql
