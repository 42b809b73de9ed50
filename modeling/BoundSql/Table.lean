/-!
# Tables

A table as a statement names it: a name, perhaps a schema before it, perhaps an
alias after it.
-/

namespace BoundSql

def nonempty? (text : String) : Option String :=
  if text.isEmpty then none else some text

structure Table where
  name : String
  aliasName : Option String := none
  schema : Option String := none
  isView : Bool := false
deriving DecidableEq, Inhabited

namespace Table

def withAlias (table : Table) (aliasName : String) : Table :=
  { table with aliasName := nonempty? aliasName }

def withSchema (table : Table) (schema : String) : Table :=
  { table with schema := nonempty? schema }

def fullName (table : Table) : String :=
  match table.schema with
  | some schema => schema ++ "." ++ table.name
  | none => table.name

/-- The name by which columns refer to the table. -/
def qualifier (table : Table) : String :=
  table.aliasName.getD table.fullName

end Table

end BoundSql
