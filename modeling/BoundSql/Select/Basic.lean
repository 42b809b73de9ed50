import BoundSql.Condition.Basic
import BoundSql.Shorthand
/-!
# Building SELECT statements

A bare column name given to a SELECT belongs to its table at that time.  Its
conditions are bound to its current table; WHERE and HAVING come into being when
they are first asked for.
-/

namespace BoundSql.Select

/-- The SELECT without a table, from which all others are built. -/
def unbound : Select := { link := {} }

instance : Inhabited Select := ⟨unbound⟩

def ofTable (table : Table) : Select :=
  { table := some table, link := .bound (some table) }

def resolve (select : Select) (reference : Reference) : Column :=
  reference.resolve select.table

/-- The SELECT from another table, to which its conditions are bound from now
on. -/
def setTable (select : Select) (table : Table) : Select :=
  { select with
    table := some table
    link := select.link.rebind (some table)
    filter := select.filter.map (Condition.rebind (some table))
    having := select.having.map (Condition.rebind (some table)) }

def setComment (select : Select) (comment : String) : Select :=
  { select with comment := some (Text.singleLine comment) }

/-! ### Columns -/

def setColumns (select : Select) (columns : List Shorthand) : Select :=
  { select with columns := some (columns.map (Shorthand.column select.table)) }

/-- Sets the columns once all of them are built. -/
def replaceColumns (columns : List Shorthand) : Editing Select Unit := do
  let select ← .current
  let columns ← Shorthand.buildAll select.table columns
  .change ({ · with columns := some columns })

theorem replaceColumns_eq (columns : List Shorthand) :
    replaceColumns columns = .change (·.setColumns columns) := by
  funext select
  rw [replaceColumns, Editing.current_bind, Shorthand.buildAll_eq, Editing.ok_bind]
  rfl

def addQueryColumn (select query : Select) (aliasName : String) : Select :=
  { select with queryColumns := select.queryColumns ++ [{ select := query, aliasName }] }

def addValueColumn (select : Select) (value : Value) (aliasName : String) : Select :=
  { select with valueColumns := select.valueColumns ++ [{ value, aliasName }] }

def addFunctionColumn (select : Select) (function : String) (arguments : List String)
    (aliasName : String) : Select :=
  { select with
    functionColumns := select.functionColumns ++ [{ function, arguments, aliasName }] }

/-- Counts what a column holds, or rows where the column is empty or `*`. -/
def setCount (select : Select) (column aliasName : String) : Select :=
  let counted :=
    if column == wildcard || column.isEmpty then none
    else some (select.resolve (.bare column))
  { select with count := some { column := counted, aliasName := nonempty? aliasName } }

def setDistinct (select : Select) : Select :=
  { select with distinct := true }

def isJoin (select : Select) : Bool :=
  select.joinType.isSome

/-- The columns that are returned: those that were set, or else all columns of
the table, or none of a join. -/
def ownColumns (select : Select) : Except Error (List Column) :=
  match select.table with
  | none => .error (.missingContext .enumeratedTable)
  | some table =>
    .ok <| match select.columns with
      | some (column :: rest) => column :: rest
      | _ => if select.isJoin then [] else [{ name := wildcard, table := some table }]

/-! ### Conditions -/

def filterOrNew (select : Select) : Condition :=
  select.filter.getD (.bound select.table)

def havingUnder (select : Select) (conjunction : Conjunction) : Condition :=
  (select.having.getD (.bound select.table)).useConjunction conjunction

/-! ### Grouping, ordering and windows -/

def addGroupBy (select : Select) (columns : List Reference) : Select :=
  { select with groupBy := select.groupBy ++ columns.map select.resolve }

def addOrderBy (select : Select) (entry : OrderBy) : Select :=
  { select with orderBy := select.orderBy ++ [entry] }

def orderRows (select : Select) (column : Reference) (direction : Direction) : Select :=
  select.addOrderBy { column := select.resolve column, direction }

def setWindow (select : Select) (start count : Nat) : Select :=
  { select with window := { start := some start, count := some count } }

def setRowCount (select : Select) (count : Nat) : Select :=
  { select with window := { select.window with count := some count } }

def setStart (select : Select) (start : Nat) : Select :=
  { select with window := { select.window with start := some start } }

end BoundSql.Select
