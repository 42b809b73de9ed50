import BoundSql.Column
import BoundSql.Dialect
import BoundSql.Text.Blank
/-!
# Names in a text

Every identifier is quoted, except `*` and what has an opening parenthesis in it,
which is taken for an expression.  A name with points is quoted part by part.
-/

namespace BoundSql

namespace Dialect

def identifier (dialect : Dialect) (identifier : String) : String :=
  if identifier = wildcard ∨ isExpression identifier then identifier
  else dialect.quoteIdentifier identifier

def dotted (dialect : Dialect) (name : String) : String :=
  if isExpression name then name
  else ".".intercalate
    ((Text.split (· == '.') name.toList).map fun part =>
      dialect.identifier (String.ofList part))

def aliasText (dialect : Dialect) : Option String → String
  | none => ""
  | some aliasName => " AS " ++ dialect.identifier aliasName

end Dialect

/-- The table where a statement introduces it, with its alias.  It must have a
name. -/
def Table.text (dialect : Dialect) (table : Table) : Except Error String :=
  if table.name.isEmpty then .error (.missingContext .tableName)
  else .ok (dialect.dotted table.fullName ++ dialect.aliasText table.aliasName)

namespace Column

/-- The column where a statement refers to it: the table's qualifier and the
name. -/
def text (dialect : Dialect) (column : Column) : String :=
  match column.table with
  | some table =>
    dialect.dotted table.qualifier ++ "." ++ dialect.identifier column.name
  | none => dialect.identifier column.name

def selectedText (dialect : Dialect) (column : Column) : String :=
  column.text dialect ++
    if column.isWildcard then "" else dialect.aliasText column.aliasName

end Column

end BoundSql
