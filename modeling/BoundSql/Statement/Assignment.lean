import BoundSql.Column
import BoundSql.Value
/-!
# Assignments

The assignments of an INSERT or UPDATE are a map from column names to values, in
the order in which the names were first assigned.
-/

namespace BoundSql

structure Assignment where
  column : Column
  value : Value

/-- Assigns a value to a column.  A column of the same name that has a value
already stays in its place and takes the new value. -/
def Assignment.assign (column : Column) (value : Value) :
    List Assignment → List Assignment
  | [] => [{ column, value }]
  | first :: rest =>
    if first.column.name = column.name then
      { first with value } :: rest
    else
      first :: assign column value rest

@[simp] theorem Assignment.assign_nil (column : Column) (value : Value) :
    assign column value [] = [{ column, value }] := rfl

/-- The names after an assignment: those before it, and the new one at the end if
it was not among them. -/
theorem Assignment.names_assign (column : Column) (value : Value)
    (assignments : List Assignment) :
    (assign column value assignments).map (·.column.name) =
      assignments.map (·.column.name) ++
        if column.name ∈ assignments.map (·.column.name) then [] else [column.name] := by
  induction assignments with
  | nil => simp
  | cons first rest ih =>
    by_cases same : first.column.name = column.name
    · simp [assign, same]
    · simp [assign, same, Ne.symm same, ih]

end BoundSql
