import BoundSql.Draft.Select
import BoundSql.Statement
/-!
# Statements in a draft
-/

namespace BoundSql

def Insert.draft (insert : Insert) : Draft :=
  .under insert.comment <|
    if insert.assignments.isEmpty then
      .fail (.insertedColumns insert.table.name)
    else
      .withTable insert.table fun target =>
        .ofText "INSERT INTO " ++ { pieces := target } ++ .ofText " (" ++
          .join ", " (insert.columns.map Column.reference) ++ .ofText ") VALUES (" ++
          .join ", " (insert.assignments.map fun one => .ofValue one.value) ++ .ofText ")"

def Draft.restriction : Option Condition → Draft
  | none => {}
  | some condition => .ledBy " WHERE " condition.draft

def Update.draft (update : Update) : Draft :=
  .under update.comment <|
    if update.assignments.isEmpty then
      .fail (.updatedValues update.table.name)
    else
      .withTable update.table fun target =>
        .ofText "UPDATE " ++ { pieces := target } ++ .ofText " SET " ++
          .join ", " (update.assignments.map Assignment.draft) ++
          .restriction update.filter ++ .limit update.limit

def Delete.draft (delete : Delete) : Draft :=
  .under delete.comment <|
    .withTable delete.table fun target =>
      .ofText "DELETE FROM " ++ { pieces := target } ++ .restriction delete.filter ++
        .limit delete.limit

/-- The members of a set operation, of which there must be one, with its keyword on
a line between two of them. -/
def Draft.members (kind : Kind) (members : List Select) : Draft :=
  if members.isEmpty then .fail (.members kind)
  else .join ("\n" ++ kind.name ++ "\n") (members.map Select.draft)

def Combination.draft (combination : Combination) : Draft :=
  .under combination.comment (.members combination.combiner.kind combination.members)

def Difference.draft (difference : Difference) : Draft :=
  .under difference.comment (.members .minus difference.members)

def Statement.draft : Statement → Draft
  | .select statement => statement.draft
  | .insert statement => statement.draft
  | .update statement => statement.draft
  | .delete statement => statement.draft
  | .combination statement => statement.draft
  | .difference statement => statement.draft

end BoundSql
