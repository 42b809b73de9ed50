import BoundSql.Binding.Select
import BoundSql.Statement
/-!
# Writing statements
-/

namespace BoundSql

variable (dialect : Dialect)

/-- An INSERT must assign something, to a table with a name. -/
def Insert.text (insert : Insert) : Binding String :=
  .under insert.comment do
    if insert.assignments.isEmpty then
      Binding.lack (.insertedColumns insert.table.name)
    else
      let target ← MonadExcept.ofExcept (insert.table.text dialect)
      let tokens ← insert.assignments.mapM fun one => Binding.value one.value
      return "INSERT INTO " ++ target ++ " (" ++
        ", ".intercalate (insert.columns.map (Column.text dialect)) ++ ") VALUES (" ++
        ", ".intercalate tokens ++ ")"

/-- A WHERE clause, if there is a condition that has any text. -/
def Binding.restriction : Option Condition → Binding String
  | none => return ""
  | some condition => return ledBy " WHERE " (← condition.text dialect)

def Update.text (update : Update) : Binding String :=
  .under update.comment do
    if update.assignments.isEmpty then
      Binding.lack (.updatedValues update.table.name)
    else
      let target ← MonadExcept.ofExcept (update.table.text dialect)
      let assignments ← update.assignments.mapM (Assignment.text dialect)
      let restriction ← Binding.restriction dialect update.filter
      let limit ← Binding.limit update.limit
      return "UPDATE " ++ target ++ " SET " ++ ", ".intercalate assignments ++ restriction ++
        limit

def Delete.text (delete : Delete) : Binding String :=
  .under delete.comment do
    let target ← MonadExcept.ofExcept (delete.table.text dialect)
    let restriction ← Binding.restriction dialect delete.filter
    let limit ← Binding.limit delete.limit
    return "DELETE FROM " ++ target ++ restriction ++ limit

/-- Writes the members of a set operation, of which there must be one, with its
keyword on a line between two of them. -/
def Binding.members (kind : Kind) (members : List Select) : Binding String := do
  let texts ← members.mapM (Select.text dialect)
  if texts.isEmpty then Binding.lack (.members kind)
  else return ("\n" ++ kind.name ++ "\n").intercalate texts

def Combination.text (combination : Combination) : Binding String :=
  .under combination.comment
    (.members dialect combination.combiner.kind combination.members)

def Difference.text (difference : Difference) : Binding String :=
  .under difference.comment (.members dialect .minus difference.members)

def Statement.text : Statement → Binding String
  | .select statement => statement.text dialect
  | .insert statement => statement.text dialect
  | .update statement => statement.text dialect
  | .delete statement => statement.text dialect
  | .combination statement => statement.text dialect
  | .difference statement => statement.text dialect

end BoundSql
