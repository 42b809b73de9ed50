import BoundSql.Editing
import BoundSql.Table
/-!
# Columns

A column has a name and belongs to a table unless it is unbound.  The column `*`
stands for all columns and never has an alias.  Statements are given columns by
reference: a whole column, or a bare name that belongs to the table at hand.
-/

namespace BoundSql

/-- A column, with the alias under which a SELECT returns it. -/
structure Column where
  name : String
  table : Option Table := none
  aliasName : Option String := none
deriving DecidableEq, Inhabited

def wildcard : String := "*"

/-- Whether a name is an expression, and is written as it is. -/
def isExpression (name : String) : Bool :=
  '(' ∈ name.toList

namespace Column

def isWildcard (column : Column) : Bool :=
  column.name == wildcard

/-- Sets the alias, or drops it where the new one is empty. -/
def setAlias (aliasName : String) : Editing Column Unit := do
  let column ← .current
  if aliasName.isEmpty then
    .change ({ · with aliasName := none })
  else if column.isWildcard then
    .fail (.invalidAlias column.name aliasName)
  else
    .change ({ · with aliasName := some aliasName })

/-- The column under another name.  The alias is lost with the name `*`. -/
def setName (column : Column) (name : String) : Column :=
  { column with name, aliasName := if name == wildcard then none else column.aliasName }

def setTable (column : Column) (table : Table) : Column :=
  { column with table := some table }

end Column

/-- A column as it is given to a statement. -/
inductive Reference where
  | bare (name : String)
  | column (column : Column)
deriving DecidableEq

/-- The column that is meant where `context` is the table at hand. -/
def Reference.resolve (context : Option Table) : Reference → Column
  | .bare name => { name, table := context }
  | .column whole => whole

end BoundSql
