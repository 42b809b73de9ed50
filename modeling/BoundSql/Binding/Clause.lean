import BoundSql.Binding.Basic
import BoundSql.Binding.Name
import BoundSql.Statement.Basic
import BoundSql.Statement.Assignment
/-!
# Writing clauses

The clauses that hold no statement of their own, each with the binding of its
values.
-/

namespace BoundSql

variable (dialect : Dialect)

def SearchClause.text (clause : SearchClause) : Binding String := do
  let token ← Binding.value clause.subject
  return "(MATCH(" ++ ", ".intercalate (clause.columns.map (Column.text dialect)) ++
    ") AGAINST(" ++ token ++ clause.mode.modifier ++ "))"

/-- To be in an empty list is false, and not to be in one says nothing. -/
def MembershipClause.text? (clause : MembershipClause) : Binding (Option String) := do
  if clause.values.isEmpty then
    return if clause.negated then none else some "(1 = 0)"
  else
    let tokens ← clause.values.mapM Binding.value
    return some ("(" ++ clause.subject.text dialect ++ " " ++ notIf clause.negated ++
      "IN (" ++ ", ".intercalate tokens ++ "))")

def RangeClause.text (clause : RangeClause) : Binding String := do
  let low ← Binding.value clause.low
  let high ← Binding.value clause.high
  return "(" ++ clause.subject.text dialect ++ " " ++ notIf clause.negated ++
    "BETWEEN " ++ low ++ " AND " ++ high ++ ")"

def NullClause.text (clause : NullClause) : String :=
  "(" ++ clause.subject.text dialect ++ " IS " ++ notIf clause.negated ++ "NULL)"

def BitClause.text (clause : BitClause) : Binding String := do
  let token ← Binding.value clause.value
  return "(ISNULL(" ++ clause.subject.text dialect ++ ", 0) = " ++ token ++ ")"

def Count.text (count : Count) : String :=
  let counted :=
    match count.column with
    | some column => column.text dialect
    | none => wildcard
  "COUNT(" ++ counted ++ ")" ++ dialect.aliasText (count.aliasName.bind nonempty?)

def ValueColumn.text (column : ValueColumn) : Binding String := do
  let token ← Binding.value column.value
  return token ++ dialect.aliasText (nonempty? column.aliasName)

def FunctionColumn.text (column : FunctionColumn) : String :=
  let call :=
    if column.arguments.isEmpty then column.function
    else column.function ++ "(" ++ ", ".intercalate column.arguments ++ ")"
  call ++ dialect.aliasText (nonempty? column.aliasName)

def OrderBy.text (entry : OrderBy) : String :=
  entry.column.text dialect ++ " " ++ entry.direction.keyword

/-- The window of a SELECT.  A bound that is not set counts as zero. -/
def Window.text (window : Window) : Binding String := do
  if window.isSet then
    let start ← Binding.value (.integer (window.start.getD 0))
    let count ← Binding.value (.integer (window.count.getD 0))
    return " LIMIT " ++ start ++ ", " ++ count
  else
    return ""

def Binding.limit : Option Nat → Binding String
  | none => return ""
  | some rows => return " LIMIT " ++ (← Binding.value (.integer rows))

def Assignment.text (assignment : Assignment) : Binding String := do
  let token ← Binding.value assignment.value
  return assignment.column.text dialect ++ " = " ++ token

end BoundSql
