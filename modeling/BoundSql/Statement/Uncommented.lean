import BoundSql.Statement.Supplied
/-!
# Statements without comments

A statement without its comment, and without those of its members, of its subqueries
and of its joins at any depth.
-/

namespace BoundSql

mutual

def Operand.uncommented : Operand → Operand
  | .value value => .value value
  | .column column => .column column
  | .select select => .select select.uncommented

def ComparisonClause.uncommentedAll : List ComparisonClause → List ComparisonClause
  | [] => []
  | { subject, relation, target } :: rest =>
    { subject, relation, target := target.uncommented } ::
      ComparisonClause.uncommentedAll rest

def ExistenceClause.uncommentedAll : List ExistenceClause → List ExistenceClause
  | [] => []
  | { select, negated } :: rest =>
    { select := select.uncommented, negated } :: ExistenceClause.uncommentedAll rest

def Condition.uncommented : Condition → Condition
  | condition@{ comparisons, existences, subconditions, .. } =>
    { condition with
      comparisons := ComparisonClause.uncommentedAll comparisons
      existences := ExistenceClause.uncommentedAll existences
      subconditions := Condition.uncommentedAll subconditions }

def Condition.uncommentedAll : List Condition → List Condition
  | [] => []
  | condition :: rest => condition.uncommented :: Condition.uncommentedAll rest

def Condition.uncommented? : Option Condition → Option Condition
  | none => none
  | some condition => some condition.uncommented

def QueryColumn.uncommentedAll : List QueryColumn → List QueryColumn
  | [] => []
  | { select, aliasName } :: rest =>
    { select := select.uncommented, aliasName } :: QueryColumn.uncommentedAll rest

def Select.uncommented : Select → Select
  | select@{ link, queryColumns, joins, filter, having, .. } =>
    { select with
      comment := none
      link := link.uncommented
      queryColumns := QueryColumn.uncommentedAll queryColumns
      joins := Select.uncommentedAll joins
      filter := Condition.uncommented? filter
      having := Condition.uncommented? having }

def Select.uncommentedAll : List Select → List Select
  | [] => []
  | select :: rest => select.uncommented :: Select.uncommentedAll rest

end

/-- A statement of any kind without any comments. -/
def Statement.uncommented : Statement → Statement
  | .select statement => .select statement.uncommented
  | .insert statement => .insert { statement with comment := none }
  | .update statement =>
    .update
      { statement with
        comment := none
        filter := Condition.uncommented? statement.filter }
  | .delete statement =>
    .delete
      { statement with
        comment := none
        filter := Condition.uncommented? statement.filter }
  | .combination statement =>
    .combination
      { statement with comment := none, members := Select.uncommentedAll statement.members }
  | .difference statement =>
    .difference
      { first := statement.first.uncommented, second := statement.second.uncommented }

/-! ### The texts that are left -/

namespace Supplied

/-- The supplied texts that are no comments. -/
def plain (supplied : List Supplied) : List Supplied :=
  supplied.filter (!·.isComment)

@[simp] theorem plain_nil : plain [] = [] := rfl

@[simp] theorem plain_append (first second : List Supplied) :
    plain (first ++ second) = plain first ++ plain second :=
  List.filter_append ..

@[simp] theorem plain_flatMap {α : Type} (texts : α → List Supplied) (parts : List α) :
    plain (parts.flatMap texts) = parts.flatMap fun part => plain (texts part) :=
  List.filter_flatMap

@[simp] theorem plain_comment (comments : List String) : plain (comments.map .comment) = [] := by
  simp [plain, isComment]

/-- Texts of which none is a comment. -/
theorem plain_map {α : Type} {text : α → Supplied}
    (kept : ∀ part, (text part).isComment = false) (parts : List α) :
    plain (parts.map text) = parts.map text := by
  simp [plain, kept]

@[simp] theorem plain_identifiers (identifiers : List String) :
    plain (identifiers.map .identifier) = identifiers.map .identifier :=
  plain_map (fun _ => rfl) identifiers

@[simp] theorem plain_verbatim (texts : List String) :
    plain (texts.map .verbatim) = texts.map .verbatim :=
  plain_map (fun _ => rfl) texts

@[simp] theorem plain_table (table : Table) : plain table.supplied = table.supplied := by
  simp [plain, Table.supplied, isComment]

@[simp] theorem plain_referred (column : Column) : plain column.referred = column.referred := by
  simp [plain, Column.referred, isComment]

@[simp] theorem plain_column (column : Column) : plain column.supplied = column.supplied := by
  simp [Column.supplied]

@[simp] theorem plain_search (clause : SearchClause) :
    plain clause.supplied = clause.supplied := by
  simp [SearchClause.supplied]

@[simp] theorem plain_function (column : FunctionColumn) :
    plain column.supplied = column.supplied := by
  simp [plain, FunctionColumn.supplied, isComment]

@[simp] theorem plain_count (count : Count) : plain count.supplied = count.supplied := by
  simp [Count.supplied]

end Supplied

mutual

theorem Operand.supplied_uncommented : (operand : Operand) →
    operand.uncommented.supplied = Supplied.plain operand.supplied
  | .value _ => by simp [Operand.uncommented, Operand.supplied]
  | .column column => by simp [Operand.uncommented, Operand.supplied]
  | .select select => by
    simp [Operand.uncommented, Operand.supplied, Select.supplied_uncommented select]

theorem ComparisonClause.supplied_uncommented : (clauses : List ComparisonClause) →
    ComparisonClause.supplied (ComparisonClause.uncommentedAll clauses) =
      Supplied.plain (ComparisonClause.supplied clauses)
  | [] => by simp [ComparisonClause.uncommentedAll, ComparisonClause.supplied]
  | { subject, relation, target } :: rest => by
    simp [ComparisonClause.uncommentedAll, ComparisonClause.supplied,
      Operand.supplied_uncommented target, ComparisonClause.supplied_uncommented rest]

theorem ExistenceClause.supplied_uncommented : (clauses : List ExistenceClause) →
    ExistenceClause.supplied (ExistenceClause.uncommentedAll clauses) =
      Supplied.plain (ExistenceClause.supplied clauses)
  | [] => by simp [ExistenceClause.uncommentedAll, ExistenceClause.supplied]
  | { select, negated } :: rest => by
    simp [ExistenceClause.uncommentedAll, ExistenceClause.supplied,
      Select.supplied_uncommented select, ExistenceClause.supplied_uncommented rest]

theorem Condition.supplied_uncommented : (condition : Condition) →
    condition.uncommented.supplied = Supplied.plain condition.supplied
  | { comparisons, existences, subconditions, .. } => by
    simp [Condition.uncommented, Condition.supplied,
      ComparisonClause.supplied_uncommented comparisons,
      ExistenceClause.supplied_uncommented existences,
      Condition.suppliedAll_uncommented subconditions]

theorem Condition.suppliedAll_uncommented : (conditions : List Condition) →
    Condition.suppliedAll (Condition.uncommentedAll conditions) =
      Supplied.plain (Condition.suppliedAll conditions)
  | [] => by simp [Condition.uncommentedAll, Condition.suppliedAll]
  | condition :: rest => by
    simp [Condition.uncommentedAll, Condition.suppliedAll,
      Condition.supplied_uncommented condition, Condition.suppliedAll_uncommented rest]

theorem Condition.supplied?_uncommented : (condition : Option Condition) →
    Condition.supplied? (Condition.uncommented? condition) =
      Supplied.plain (Condition.supplied? condition)
  | none => by simp [Condition.uncommented?, Condition.supplied?]
  | some condition => by
    simp [Condition.uncommented?, Condition.supplied?, Condition.supplied_uncommented condition]

theorem QueryColumn.supplied_uncommented : (columns : List QueryColumn) →
    QueryColumn.supplied (QueryColumn.uncommentedAll columns) =
      Supplied.plain (QueryColumn.supplied columns)
  | [] => by simp [QueryColumn.uncommentedAll, QueryColumn.supplied]
  | { select, aliasName } :: rest => by
    rw [QueryColumn.uncommentedAll, QueryColumn.supplied, QueryColumn.supplied,
      Supplied.plain_append, Supplied.plain_append, Select.supplied_uncommented select,
      QueryColumn.supplied_uncommented rest]
    rfl

theorem Select.supplied_uncommented : (select : Select) →
    select.uncommented.supplied = Supplied.plain select.supplied
  | { link, queryColumns, valueColumns, joins, filter, having, .. } => by
    have named := Supplied.plain_map
      (fun _ => rfl : ∀ column : ValueColumn,
        (Supplied.identifier column.aliasName).isComment = false) valueColumns
    simp [Select.uncommented, Select.supplied, named,
      Condition.supplied_uncommented link, QueryColumn.supplied_uncommented queryColumns,
      Select.suppliedAll_uncommented joins, Condition.supplied?_uncommented filter,
      Condition.supplied?_uncommented having]

theorem Select.suppliedAll_uncommented : (selects : List Select) →
    Select.suppliedAll (Select.uncommentedAll selects) =
      Supplied.plain (Select.suppliedAll selects)
  | [] => by simp [Select.uncommentedAll, Select.suppliedAll]
  | select :: rest => by
    simp [Select.uncommentedAll, Select.suppliedAll, Select.supplied_uncommented select,
      Select.suppliedAll_uncommented rest]

end

/-- A statement without comments has all texts but the comments. -/
theorem Statement.supplied_uncommented (statement : Statement) :
    statement.uncommented.supplied = Supplied.plain statement.supplied := by
  cases statement with
  | select statement => exact statement.supplied_uncommented
  | insert statement => simp [uncommented, supplied]
  | update statement => simp [uncommented, supplied, Condition.supplied?_uncommented]
  | delete statement => simp [uncommented, supplied, Condition.supplied?_uncommented]
  | combination statement => simp [uncommented, supplied, Select.suppliedAll_uncommented]
  | difference statement =>
    simp [uncommented, supplied, Select.suppliedAll, Select.supplied_uncommented]

end BoundSql
