import BoundSql.Statement
/-!
# Supplied texts

The texts that a statement is built from: names, aliases, functions with their
arguments, literal clauses and comments.  Values are not among them.
-/

namespace BoundSql

/-- A text that a statement was given, by the way in which it is written. -/
inductive Supplied where
  /-- The name or alias of a column, or the alias of a table. -/
  | identifier (text : String)
  /-- A name that can have points in it. -/
  | dotted (text : String)
  | verbatim (text : String)
  | comment (text : String)

def Supplied.text : Supplied → String
  | .identifier text | .dotted text | .verbatim text | .comment text => text

def Supplied.isComment : Supplied → Bool
  | .comment _ => true
  | .identifier _ | .dotted _ | .verbatim _ => false

def Table.supplied (table : Table) : List Supplied :=
  .dotted table.fullName :: .dotted table.qualifier :: table.aliasName.toList.map .identifier

namespace Column

/-- The texts of a column where it is referred to. -/
def referred (column : Column) : List Supplied :=
  column.table.toList.map (fun table => .dotted table.qualifier) ++ [.identifier column.name]

/-- The texts of a column where a SELECT returns it. -/
def supplied (column : Column) : List Supplied :=
  column.referred ++ column.aliasName.toList.map .identifier

end Column

def SearchClause.supplied (clause : SearchClause) : List Supplied :=
  clause.columns.flatMap Column.referred

def FunctionColumn.supplied (column : FunctionColumn) : List Supplied :=
  .verbatim column.function :: column.arguments.map .verbatim ++ [.identifier column.aliasName]

def Count.supplied (count : Count) : List Supplied :=
  count.column.toList.flatMap Column.referred ++ count.aliasName.toList.map .identifier

mutual

def Operand.supplied : Operand → List Supplied
  | .value _ => []
  | .column column => column.referred
  | .select select => select.supplied

def ComparisonClause.supplied : List ComparisonClause → List Supplied
  | [] => []
  | { subject, target, .. } :: rest =>
    subject.referred ++ target.supplied ++ ComparisonClause.supplied rest

def ExistenceClause.supplied : List ExistenceClause → List Supplied
  | [] => []
  | { select, .. } :: rest => select.supplied ++ ExistenceClause.supplied rest

def Condition.supplied : Condition → List Supplied
  | { comparisons, ranges, memberships, nullChecks, bits, searches, existences, literals,
      subconditions, .. } =>
    searches.flatMap SearchClause.supplied ++
      memberships.flatMap (fun clause => clause.subject.referred) ++
      ranges.flatMap (fun clause => clause.subject.referred) ++
      ComparisonClause.supplied comparisons ++
      nullChecks.flatMap (fun clause => clause.subject.referred) ++
      bits.flatMap (fun clause => clause.subject.referred) ++
      ExistenceClause.supplied existences ++ literals.map .verbatim ++
      Condition.suppliedAll subconditions

def Condition.suppliedAll : List Condition → List Supplied
  | [] => []
  | condition :: rest => condition.supplied ++ Condition.suppliedAll rest

def Condition.supplied? : Option Condition → List Supplied
  | none => []
  | some condition => condition.supplied

def QueryColumn.supplied : List QueryColumn → List Supplied
  | [] => []
  | { select, aliasName } :: rest =>
    select.supplied ++ [.identifier aliasName] ++ QueryColumn.supplied rest

/-- The texts of a SELECT and of all that it holds. -/
def Select.supplied : Select → List Supplied
  | { table, comment, link, columns, queryColumns, valueColumns, functionColumns, count, joins,
      filter, having, groupBy, orderBy, .. } =>
    table.toList.flatMap Table.supplied ++ comment.toList.map .comment ++ link.supplied ++
      (columns.getD []).flatMap Column.supplied ++ QueryColumn.supplied queryColumns ++
      valueColumns.map (fun column => .identifier column.aliasName) ++
      functionColumns.flatMap FunctionColumn.supplied ++
      count.toList.flatMap Count.supplied ++ Select.suppliedAll joins ++
      Condition.supplied? filter ++ Condition.supplied? having ++
      groupBy.flatMap Column.referred ++ orderBy.flatMap (fun entry => entry.column.referred)

def Select.suppliedAll : List Select → List Supplied
  | [] => []
  | select :: rest => select.supplied ++ Select.suppliedAll rest

end

theorem ComparisonClause.supplied_eq (clauses : List ComparisonClause) :
    supplied clauses =
      clauses.flatMap fun clause => clause.subject.referred ++ clause.target.supplied := by
  induction clauses with
  | nil => rfl
  | cons clause rest ih =>
    obtain ⟨subject, relation, target⟩ := clause
    simp [supplied, ih]

theorem ExistenceClause.supplied_eq (clauses : List ExistenceClause) :
    supplied clauses = clauses.flatMap fun clause => clause.select.supplied := by
  induction clauses with
  | nil => rfl
  | cons clause rest ih =>
    obtain ⟨select, negated⟩ := clause
    simp [supplied, ih]

theorem Condition.suppliedAll_eq (conditions : List Condition) :
    suppliedAll conditions = conditions.flatMap supplied := by
  induction conditions with
  | nil => rfl
  | cons condition rest ih => simp [suppliedAll, ih]

theorem Condition.supplied?_eq (condition : Option Condition) :
    supplied? condition = condition.toList.flatMap supplied := by
  cases condition <;> simp [supplied?]

theorem QueryColumn.supplied_eq (columns : List QueryColumn) :
    supplied columns =
      columns.flatMap fun column => column.select.supplied ++ [.identifier column.aliasName] := by
  induction columns with
  | nil => rfl
  | cons column rest ih =>
    obtain ⟨select, aliasName⟩ := column
    simp [supplied, ih]

theorem Select.suppliedAll_eq (selects : List Select) :
    suppliedAll selects = selects.flatMap supplied := by
  induction selects with
  | nil => rfl
  | cons select rest ih => simp [suppliedAll, ih]

theorem Condition.supplied_eq (condition : Condition) :
    condition.supplied =
      condition.searches.flatMap SearchClause.supplied ++
        condition.memberships.flatMap (fun clause => clause.subject.referred) ++
        condition.ranges.flatMap (fun clause => clause.subject.referred) ++
        ComparisonClause.supplied condition.comparisons ++
        condition.nullChecks.flatMap (fun clause => clause.subject.referred) ++
        condition.bits.flatMap (fun clause => clause.subject.referred) ++
        ExistenceClause.supplied condition.existences ++ condition.literals.map .verbatim ++
        Condition.suppliedAll condition.subconditions := by
  cases condition
  rw [supplied]

theorem Select.supplied_eq (select : Select) :
    select.supplied =
      select.table.toList.flatMap Table.supplied ++ select.comment.toList.map .comment ++
        select.link.supplied ++ (select.columns.getD []).flatMap Column.supplied ++
        QueryColumn.supplied select.queryColumns ++
        select.valueColumns.map (fun column => .identifier column.aliasName) ++
        select.functionColumns.flatMap FunctionColumn.supplied ++
        select.count.toList.flatMap Count.supplied ++ Select.suppliedAll select.joins ++
        Condition.supplied? select.filter ++ Condition.supplied? select.having ++
        select.groupBy.flatMap Column.referred ++
        select.orderBy.flatMap (fun entry => entry.column.referred) := by
  cases select
  rw [supplied]

def Statement.supplied : Statement → List Supplied
  | .select statement => statement.supplied
  | .insert { table, comment, assignments } =>
    table.supplied ++ comment.toList.map .comment ++
      assignments.flatMap fun one => one.column.referred
  | .update { table, comment, assignments, filter, .. } =>
    table.supplied ++ comment.toList.map .comment ++
      assignments.flatMap (fun one => one.column.referred) ++ Condition.supplied? filter
  | .delete { table, comment, filter, .. } =>
    table.supplied ++ comment.toList.map .comment ++ Condition.supplied? filter
  | .combination { members, comment, .. } =>
    Select.suppliedAll members ++ comment.toList.map .comment
  | .difference { first, second, comment } =>
    Select.suppliedAll [first, second] ++ comment.toList.map .comment

end BoundSql
