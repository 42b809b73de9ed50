import BoundSql.Select.Flatten
import BoundSql.Statement
/-!
# Well-formed statements

A statement is well formed if it has what its text needs: a table with a name where
one is introduced, something to assign, members to combine, and well-formed SELECT
statements in its conditions and columns.  Parts that are not written need nothing.
-/

namespace BoundSql

/-- A table that a statement can introduce. -/
def Table.IsNamed (table : Table) : Prop :=
  table.name ≠ ""

instance (table : Table) : Decidable table.IsNamed :=
  inferInstanceAs (Decidable (_ ≠ _))

def Select.HasNamedTable (select : Select) : Prop :=
  ∃ table ∈ select.table, table.IsNamed

def Operand.select? : Operand → Option Select
  | .select whole => some whole
  | .value _ | .column _ => none

mutual

/-- A condition needs whatever the SELECT statements in it need, at any depth. -/
inductive Condition.WellFormed : Condition → Prop
  | intro {condition : Condition}
      (comparisons : ∀ clause ∈ condition.comparisons, ∀ select ∈ clause.target.select?,
        Select.WellFormed select)
      (existences : ∀ clause ∈ condition.existences, Select.WellFormed clause.select)
      (subconditions : ∀ one ∈ condition.subconditions, Condition.WellFormed one) :
      Condition.WellFormed condition

/-- A SELECT that is itself a join is written as one wherever it stands, without its
columns, WHERE clause and joins.  Any other is written with the parts of all its
joins, but returns no columns of queries if it counts. -/
inductive Select.WellFormed : Select → Prop
  | join {select : Select}
      (isJoin : select.isJoin)
      (table : select.HasNamedTable)
      (link : Condition.WellFormed select.link) :
      Select.WellFormed select
  | whole {select : Select}
      (isWhole : ¬ select.isJoin)
      (table : select.HasNamedTable)
      (joins : ∀ join ∈ select.allJoins, join.HasNamedTable)
      (links : ∀ join ∈ select.allJoins, Condition.WellFormed join.link)
      (filters : ∀ one ∈ select.flattened, ∀ filter ∈ one.filter, Condition.WellFormed filter)
      (havings : ∀ one ∈ select.flattened, ∀ having ∈ one.having, Condition.WellFormed having)
      (queryColumns : select.count = none → ∀ one ∈ select.flattened,
        ∀ column ∈ one.queryColumns, Select.WellFormed column.select) :
      Select.WellFormed select

end

def Insert.WellFormed (insert : Insert) : Prop :=
  insert.assignments ≠ [] ∧ insert.table.IsNamed

def Update.WellFormed (update : Update) : Prop :=
  update.assignments ≠ [] ∧ update.table.IsNamed ∧
    ∀ condition ∈ update.filter, condition.WellFormed

def Delete.WellFormed (delete : Delete) : Prop :=
  delete.table.IsNamed ∧ ∀ condition ∈ delete.filter, condition.WellFormed

def Combination.WellFormed (combination : Combination) : Prop :=
  combination.members ≠ [] ∧ ∀ member ∈ combination.members, member.WellFormed

def Difference.WellFormed (difference : Difference) : Prop :=
  difference.first.WellFormed ∧ difference.second.WellFormed

def Statement.WellFormed : Statement → Prop
  | .select statement => statement.WellFormed
  | .insert statement => statement.WellFormed
  | .update statement => statement.WellFormed
  | .delete statement => statement.WellFormed
  | .combination statement => statement.WellFormed
  | .difference statement => statement.WellFormed

end BoundSql
