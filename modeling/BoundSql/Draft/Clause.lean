import BoundSql.Draft.Name
import BoundSql.Condition.Clause
import BoundSql.Statement.Basic
import BoundSql.Statement.Assignment
/-!
# Clauses in a draft

The text of the clauses that hold no statement of their own.
-/

namespace BoundSql

/-- A search without the parentheses around it. -/
def SearchClause.body (clause : SearchClause) : Draft :=
  .ofText "MATCH(" ++ .join ", " (clause.columns.map Column.reference) ++
    .ofText ") AGAINST(" ++ .ofValue clause.subject ++ .ofText (clause.mode.modifier ++ ")")

def SearchClause.draft (clause : SearchClause) : Draft :=
  clause.body.parenthesized

def MembershipClause.body (clause : MembershipClause) : Draft :=
  clause.subject.reference ++ .ofText (" " ++ notIf clause.negated ++ "IN (") ++
    .join ", " (clause.values.map Draft.ofValue) ++ .ofText ")"

/-- To be in an empty list is false, and not to be in one says nothing. -/
def MembershipClause.draft (clause : MembershipClause) : Draft :=
  if clause.values.isEmpty then
    if clause.negated then {} else .ofText "(1 = 0)"
  else
    clause.body.parenthesized

def MembershipClause.isVoid (clause : MembershipClause) : Bool :=
  clause.values.isEmpty && clause.negated

def MembershipClause.drafts (clauses : List MembershipClause) : List Draft :=
  (clauses.filter fun clause => !clause.isVoid).map MembershipClause.draft

def RangeClause.body (clause : RangeClause) : Draft :=
  clause.subject.reference ++ .ofText (" " ++ notIf clause.negated ++ "BETWEEN ") ++
    .ofValue clause.low ++ .ofText " AND " ++ .ofValue clause.high

def RangeClause.draft (clause : RangeClause) : Draft :=
  clause.body.parenthesized

def NullClause.body (clause : NullClause) : Draft :=
  clause.subject.reference ++ .ofText (" IS " ++ notIf clause.negated ++ "NULL")

def NullClause.draft (clause : NullClause) : Draft :=
  clause.body.parenthesized

def BitClause.body (clause : BitClause) : Draft :=
  .ofText "ISNULL(" ++ clause.subject.reference ++ .ofText ", 0) = " ++ .ofValue clause.value

def BitClause.draft (clause : BitClause) : Draft :=
  clause.body.parenthesized

def Draft.comparison (subject : Column) (relation : Relation) (target : Draft) :
    Draft :=
  .parenthesized (subject.reference ++ .ofText (" " ++ relation.operator ++ " ") ++ target)

def Draft.exists (select : Draft) : Draft :=
  .ofText "EXISTS " ++ select.parenthesized

def Draft.negatedIf (negated : Bool) (draft : Draft) : Draft :=
  if negated then .ofText "NOT " ++ draft else draft

/-- The alias of a column, where the empty alias counts as none. -/
def Draft.aliased (aliasName : String) (draft : Draft) : Draft :=
  draft ++ { pieces := Piece.ofAlias (nonempty? aliasName) }

def ValueColumn.draft (column : ValueColumn) : Draft :=
  (Draft.ofValue column.value).aliased column.aliasName

def FunctionColumn.draft (column : FunctionColumn) : Draft :=
  let call :=
    if column.arguments.isEmpty then .ofText column.function
    else .ofText column.function ++ .parenthesized (.join ", " (column.arguments.map .ofText))
  Draft.aliased column.aliasName call

def Count.draft (count : Count) : Draft :=
  let counted :=
    match count.column with
    | some column => column.reference
    | none => .ofText wildcard
  .ofText "COUNT(" ++ counted ++ .ofText ")" ++
    { pieces := Piece.ofAlias (count.aliasName.bind nonempty?) }

def OrderBy.draft (entry : OrderBy) : Draft :=
  entry.column.reference ++ .ofText (" " ++ entry.direction.keyword)

def Window.draft (window : Window) : Draft :=
  if window.isSet then
    .ofText " LIMIT " ++ .ofValue (.integer (window.start.getD 0)) ++ .ofText ", " ++
      .ofValue (.integer (window.count.getD 0))
  else
    {}

def Draft.limit : Option Nat → Draft
  | none => {}
  | some rows => .ofText " LIMIT " ++ .ofValue (.integer rows)

def Assignment.draft (assignment : Assignment) : Draft :=
  assignment.column.reference ++ .ofText " = " ++ .ofValue assignment.value

end BoundSql
