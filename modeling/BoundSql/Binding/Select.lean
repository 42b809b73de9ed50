import BoundSql.Binding.Clause
import BoundSql.Select.Flatten
/-!
# Writing conditions and SELECT statements

A SELECT is written together with the parts of all its joins, depth first.  Those
parts of one SELECT that hold statements or conditions are its `Contribution`:
they are written, and their values bound, where the text of the whole needs them.
-/

namespace BoundSql

/-- What one SELECT contributes to the text of the whole. -/
structure Contribution where
  queryColumns : List (Binding String)
  join : Binding String
  filter : Option (Conjunction × Binding String)
  having : Option (Conjunction × Binding String)

namespace Contribution

/-- The list of what a SELECT returns: the columns of tables, then those of
queries, of values and of functions.  It is not enumerated unless each table is
there. -/
def columns (dialect : Dialect) (select : Select) (parts : List Contribution) :
    Binding String := do
  let columns ← MonadExcept.ofExcept select.allColumns
  let queries ← (parts.flatMap queryColumns).mapM id
  let values ← select.allValueColumns.mapM (ValueColumn.text dialect)
  return ", ".intercalate (columns.map (Column.selectedText dialect) ++ queries ++ values ++
    select.allFunctionColumns.map (FunctionColumn.text dialect))

def selection (dialect : Dialect) (select : Select) (parts : List Contribution) :
    Binding String :=
  match select.count with
  | some count => return count.text dialect
  | none => columns dialect select parts

/-- The text of a SELECT that is not a join, from its own part and those of its
joins. -/
def compose (dialect : Dialect) (select : Select) (own : Contribution)
    (joined : List Contribution) : Binding String := do
  match select.table with
  | none => Binding.lack .selectTable
  | some table =>
    let source ← MonadExcept.ofExcept (table.text dialect)
    let columns ← selection dialect select (own :: joined)
    let joins ← joined.mapM join
    let filters ← Binding.allOf ((own :: joined).filterMap filter)
    let havings ← Binding.allOf ((own :: joined).filterMap having)
    let window ← select.window.text
    let groupBy := ", ".intercalate (select.groupBy.map (Column.text dialect))
    let orderBy := ", ".intercalate (select.allOrderBy.map (OrderBy.text dialect))
    return (if select.distinct then "SELECT DISTINCT" else "SELECT") ++
      Binding.ledBy " " columns ++ " FROM " ++ source ++
      String.join (joins.map fun join => " " ++ join) ++
      Binding.ledBy " WHERE " filters ++
      (if select.groupBy.isEmpty then "" else " GROUP BY " ++ groupBy) ++
      Binding.ledBy " HAVING " havings ++
      (if select.allOrderBy.isEmpty then "" else " ORDER BY " ++ orderBy) ++ window

def text (dialect : Dialect) (select : Select) (own : Contribution)
    (joined : List Contribution) : Binding String :=
  Binding.under select.comment
    (if select.isJoin then own.join else compose dialect select own joined)

def joinText (dialect : Dialect) (table : Option Table) (joinType : Option JoinType)
    (link : Binding String) : Binding String := do
  match table with
  | none => Binding.lack .joinTable
  | some table =>
    let source ← MonadExcept.ofExcept (table.text dialect)
    let link ← link
    return (joinType.getD .plain).keyword ++ " " ++ source ++ Binding.ledBy " ON " link

end Contribution

mutual

def Operand.text (dialect : Dialect) : Operand → Binding String
  | .value bound => Binding.value bound
  | .column column => return column.text dialect
  | .select select => do
    let text ← Contribution.text dialect select (select.contribution dialect)
      (select.joinedContributions dialect)
    return "(" ++ text ++ ")"

def ComparisonClause.texts (dialect : Dialect) : List ComparisonClause → Binding (List String)
  | [] => return []
  | { subject, relation, target } :: rest => do
    let target ← target.text dialect
    let texts ← ComparisonClause.texts dialect rest
    return ("(" ++ subject.text dialect ++ " " ++ relation.operator ++ " " ++ target ++ ")") ::
      texts

def ExistenceClause.texts (dialect : Dialect) : List ExistenceClause → Binding (List String)
  | [] => return []
  | { select, negated } :: rest => do
    let text ← Contribution.text dialect select (select.contribution dialect)
      (select.joinedContributions dialect)
    let texts ← ExistenceClause.texts dialect rest
    return (notIf negated ++ "EXISTS (" ++ text ++ ")") :: texts

/-- Writes the clauses of a condition in a fixed order of their kinds, connected
by its conjunction. -/
def Condition.text (dialect : Dialect) : Condition → Binding String
  | { conjunction, comparisons, ranges, memberships, nullChecks, bits, searches,
      existences, literals, subconditions, .. } => do
    let searches ← searches.mapM (SearchClause.text dialect)
    let memberships ← memberships.mapM (MembershipClause.text? dialect)
    let ranges ← ranges.mapM (RangeClause.text dialect)
    let comparisons ← ComparisonClause.texts dialect comparisons
    let bits ← bits.mapM (BitClause.text dialect)
    let existences ← ExistenceClause.texts dialect existences
    let subconditions ← Condition.groups dialect subconditions
    return (" " ++ conjunction.keyword ++ " ").intercalate
      (searches ++ memberships.reduceOption ++ ranges ++ comparisons ++
        nullChecks.map (NullClause.text dialect) ++ bits ++ existences ++ literals ++
        subconditions)

/-- Writes the subconditions that have any text, each between parentheses. -/
def Condition.groups (dialect : Dialect) : List Condition → Binding (List String)
  | [] => return []
  | condition :: rest => do
    let text ← condition.text dialect
    let groups ← Condition.groups dialect rest
    return if text.isEmpty then groups else ("(" ++ text ++ ")") :: groups

def Condition.connectedText (dialect : Dialect) :
    Option Condition → Option (Conjunction × Binding String)
  | none => none
  | some condition => some (condition.conjunction, condition.text dialect)

def QueryColumn.texts (dialect : Dialect) : List QueryColumn → List (Binding String)
  | [] => []
  | { select, aliasName } :: rest =>
    (do
      let text ← Contribution.text dialect select (select.contribution dialect)
        (select.joinedContributions dialect)
      return "(" ++ text ++ ")" ++ dialect.aliasText (nonempty? aliasName)) ::
      QueryColumn.texts dialect rest

def Select.contribution (dialect : Dialect) : Select → Contribution
  | { table, joinType, link, queryColumns, filter, having, .. } =>
    { queryColumns := QueryColumn.texts dialect queryColumns
      join := Contribution.joinText dialect table joinType (link.text dialect)
      filter := Condition.connectedText dialect filter
      having := Condition.connectedText dialect having }

/-- What all joins of a SELECT contribute, depth first. -/
def Select.joinedContributions (dialect : Dialect) : Select → List Contribution
  | { joins, .. } => Select.contributionsOf dialect joins

def Select.contributionsOf (dialect : Dialect) : List Select → List Contribution
  | [] => []
  | select :: rest =>
    select.contribution dialect ::
      (select.joinedContributions dialect ++ Select.contributionsOf dialect rest)

end

def Select.text (dialect : Dialect) (select : Select) : Binding String :=
  Contribution.text dialect select (select.contribution dialect)
    (select.joinedContributions dialect)

end BoundSql
