import BoundSql.Condition.Basic
import BoundSql.Statement.Assignment
/-!
# Statements that change data

An INSERT or UPDATE assigns values to columns of its table; an UPDATE or DELETE
can be restricted to some rows.
-/

namespace BoundSql

/-- An INSERT of one row. -/
structure Insert where
  table : Table
  comment : Option String := none
  assignments : List Assignment := []

/-- An UPDATE of the rows that meet a condition, perhaps only of so many. -/
structure Update where
  table : Table
  comment : Option String := none
  assignments : List Assignment := []
  filter : Option Condition := none
  limit : Option Nat := none

structure Delete where
  table : Table
  comment : Option String := none
  filter : Option Condition := none
  limit : Option Nat := none

namespace Insert

def setTable (insert : Insert) (table : Table) : Insert :=
  { insert with table }

def setComment (insert : Insert) (comment : String) : Insert :=
  { insert with comment := some (Text.singleLine comment) }

def set (insert : Insert) (column : Reference) (value : Value) : Insert :=
  { insert with
    assignments :=
      Assignment.assign (column.resolve (some insert.table)) value insert.assignments }

def setAll (insert : Insert) (values : List (Reference × Value)) : Insert :=
  values.foldl (fun insert (column, value) => insert.set column value) insert

theorem setAll_eq (insert : Insert) (values : List (Reference × Value)) :
    insert.setAll values = { insert with assignments := (insert.setAll values).assignments } := by
  unfold setAll
  induction values generalizing insert with
  | nil => rfl
  | cons value rest ih => exact ih (insert.set value.1 value.2)

def columns (insert : Insert) : List Column :=
  insert.assignments.map Assignment.column

end Insert

namespace Update

def setTable (update : Update) (table : Table) : Update :=
  { update with table, filter := update.filter.map (Condition.rebind (some table)) }

def setComment (update : Update) (comment : String) : Update :=
  { update with comment := some (Text.singleLine comment) }

def set (update : Update) (column : Reference) (value : Value) : Update :=
  { update with
    assignments :=
      Assignment.assign (column.resolve (some update.table)) value update.assignments }

def setAll (update : Update) (values : List (Reference × Value)) : Update :=
  values.foldl (fun update (column, value) => update.set column value) update

theorem setAll_eq (update : Update) (values : List (Reference × Value)) :
    update.setAll values = { update with assignments := (update.setAll values).assignments } := by
  unfold setAll
  induction values generalizing update with
  | nil => rfl
  | cons value rest ih => exact ih (update.set value.1 value.2)

def filterOrNew (update : Update) : Condition :=
  update.filter.getD (.bound (some update.table))

end Update

namespace Delete

def setTable (delete : Delete) (table : Table) : Delete :=
  { delete with table, filter := delete.filter.map (Condition.rebind (some table)) }

def setComment (delete : Delete) (comment : String) : Delete :=
  { delete with comment := some (Text.singleLine comment) }

def filterOrNew (delete : Delete) : Condition :=
  delete.filter.getD (.bound (some delete.table))

end Delete

end BoundSql
