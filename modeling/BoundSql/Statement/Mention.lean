import BoundSql.Select.Flatten
import BoundSql.Statement
import BoundSql.Statement.Assignment
/-!
# Mentions

What the text of a statement mentions, in the order of the text: tables, columns and
aliases, the texts that are written as they are, and comments.  Parts of a statement
that are not written are not mentioned.

The mentions of a SELECT are composed of those of its own parts and of the parts of all
its joins, depth first.  Those parts of one SELECT that hold statements or conditions
are its `Share`.
-/

namespace BoundSql

inductive Mention where
  /-- A table where it is introduced. -/
  | table (table : Table)
  /-- A column where it is referred to. -/
  | column (column : Column)
  /-- An alias for what a SELECT returns. -/
  | aliasName (text : String)
  | verbatim (text : String)
  | comment (text : String)

/-! ### Identifiers -/

/-- The identifiers to be quoted of a name without points. -/
def Mention.identifier (name : String) : List String :=
  if name = wildcard ∨ isExpression name then [] else [name]

/-- The identifiers to be quoted of a name that can have points in it. -/
def Mention.dotted (name : String) : List String :=
  if isExpression name then []
  else (Text.split (· == '.') name.toList).flatMap fun part => identifier (String.ofList part)

namespace Mention

/-- The identifiers of a mention that are to be quoted. -/
def segments : Mention → List String
  | .table source => dotted source.fullName ++ source.aliasName.toList.flatMap identifier
  | .column one =>
    one.table.toList.flatMap (fun source => dotted source.qualifier) ++ identifier one.name
  | .aliasName text => identifier text
  | .verbatim _ | .comment _ => []

/-- The texts of a mention that are written as they are: comments, texts that are not
identifiers, and identifiers that are expressions. -/
def exposed : Mention → List String
  | .table source => (source.fullName :: source.aliasName.toList).filter isExpression
  | .column one => (one.table.toList.map Table.qualifier ++ [one.name]).filter isExpression
  | .aliasName text => [text].filter isExpression
  | .verbatim text | .comment text => [text]

end Mention

/-! ### Clauses -/

/-- A column as a SELECT returns it. -/
def Column.mentions (column : Column) : List Mention :=
  .column column :: if column.isWildcard then [] else column.aliasName.toList.map .aliasName

def SearchClause.mentions (clause : SearchClause) : List Mention :=
  clause.columns.map .column

/-- A membership in an empty list does not mention its subject. -/
def MembershipClause.mentions (clause : MembershipClause) : List Mention :=
  if clause.values.isEmpty then [] else [.column clause.subject]

def ValueColumn.mentions (column : ValueColumn) : List Mention :=
  (nonempty? column.aliasName).toList.map .aliasName

def FunctionColumn.mentions (column : FunctionColumn) : List Mention :=
  .verbatim column.function :: column.arguments.map .verbatim ++
    (nonempty? column.aliasName).toList.map .aliasName

def Count.mentions (count : Count) : List Mention :=
  count.column.toList.map .column ++ (count.aliasName.bind nonempty?).toList.map .aliasName

/-! ### Conditions and SELECT statements -/

/-- The mentions that one SELECT contributes to the whole. -/
structure Share where
  queryColumns : List Mention
  join : List Mention
  filter : List Mention
  having : List Mention

namespace Share

def selection (select : Select) (shares : List Share) : List Mention :=
  match select.count with
  | some count => count.mentions
  | none =>
    (select.allColumns.toOption.getD []).flatMap Column.mentions ++
      shares.flatMap queryColumns ++ select.allValueColumns.flatMap ValueColumn.mentions ++
      select.allFunctionColumns.flatMap FunctionColumn.mentions

def compose (select : Select) (own : Share) (joined : List Share) : List Mention :=
  let shares := own :: joined
  selection select shares ++ select.table.toList.map .table ++ joined.flatMap join ++
    shares.flatMap filter ++ select.groupBy.map .column ++ shares.flatMap having ++
    select.allOrderBy.map fun entry => .column entry.column

def mentions (select : Select) (own : Share) (joined : List Share) : List Mention :=
  select.comment.toList.map .comment ++
    if select.isJoin then own.join else compose select own joined

end Share

mutual

def Operand.mentions : Operand → List Mention
  | .value _ => []
  | .column column => [.column column]
  | .select select => Share.mentions select select.share select.joinedShares

def ComparisonClause.mentions : List ComparisonClause → List Mention
  | [] => []
  | { subject, target, .. } :: rest =>
    .column subject :: (target.mentions ++ ComparisonClause.mentions rest)

def ExistenceClause.mentions : List ExistenceClause → List Mention
  | [] => []
  | { select, .. } :: rest =>
    Share.mentions select select.share select.joinedShares ++ ExistenceClause.mentions rest

def Condition.mentions : Condition → List Mention
  | { comparisons, ranges, memberships, nullChecks, bits, searches, existences, literals,
      subconditions, .. } =>
    searches.flatMap SearchClause.mentions ++ memberships.flatMap MembershipClause.mentions ++
      ranges.map (fun clause => .column clause.subject) ++
      ComparisonClause.mentions comparisons ++
      nullChecks.map (fun clause => .column clause.subject) ++
      bits.map (fun clause => .column clause.subject) ++
      ExistenceClause.mentions existences ++ literals.map .verbatim ++
      Condition.mentionsOf subconditions

def Condition.mentionsOf : List Condition → List Mention
  | [] => []
  | condition :: rest => condition.mentions ++ Condition.mentionsOf rest

def Condition.mentions? : Option Condition → List Mention
  | none => []
  | some condition => condition.mentions

def QueryColumn.mentions : List QueryColumn → List Mention
  | [] => []
  | { select, aliasName } :: rest =>
    Share.mentions select select.share select.joinedShares ++
      (nonempty? aliasName).toList.map .aliasName ++ QueryColumn.mentions rest

def Select.share : Select → Share
  | { table, link, queryColumns, filter, having, .. } =>
    { queryColumns := QueryColumn.mentions queryColumns
      join := table.toList.map .table ++ link.mentions
      filter := Condition.mentions? filter
      having := Condition.mentions? having }

/-- What all joins of a SELECT contribute, depth first. -/
def Select.joinedShares : Select → List Share
  | { joins, .. } => Select.sharesOf joins

def Select.sharesOf : List Select → List Share
  | [] => []
  | select :: rest => select.share :: (select.joinedShares ++ Select.sharesOf rest)

end

def Select.mentions (select : Select) : List Mention :=
  Share.mentions select select.share select.joinedShares

/-! ### Statements -/

/-- What the text of a statement mentions, from left to right. -/
def Statement.mentions : Statement → List Mention
  | .select statement => statement.mentions
  | .insert { table, comment, assignments } =>
    comment.toList.map .comment ++ [.table table] ++
      assignments.map fun one => .column one.column
  | .update { table, comment, assignments, filter, .. } =>
    comment.toList.map .comment ++ [.table table] ++
      assignments.map (fun one => .column one.column) ++ Condition.mentions? filter
  | .delete { table, comment, filter, .. } =>
    comment.toList.map .comment ++ [.table table] ++ Condition.mentions? filter
  | .combination { members, comment, .. } =>
    comment.toList.map .comment ++ members.flatMap Select.mentions
  | .difference { first, second, comment } =>
    comment.toList.map .comment ++ first.mentions ++ second.mentions

def Mention.column? : Mention → Option Column
  | .column one => some one
  | .table _ | .aliasName _ | .verbatim _ | .comment _ => none

/-- The columns that the text of a statement refers to. -/
def Statement.mentionedColumns (statement : Statement) : List Column :=
  statement.mentions.filterMap Mention.column?

end BoundSql
