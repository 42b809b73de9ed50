import BoundSql.Draft.Clause
import BoundSql.Select.Flatten
/-!
# Conditions and SELECT statements in a draft

The draft of a SELECT is composed of drafts of its own parts and of the parts of
all its joins, depth first.  The parts that one SELECT contributes are its
`Layer`.
-/

namespace BoundSql

/-- The drafts of the parts that one SELECT contributes to the whole. -/
structure Layer where
  /-- The columns, unless the table is missing. -/
  columns : Option (List Draft)
  queryColumns : List Draft
  valueColumns : List Draft
  functionColumns : List Draft
  join : Draft
  filter : Option (Conjunction × Draft)
  having : Option (Conjunction × Draft)
  orderBy : List Draft

namespace Draft

/-- Conditions that hold together.  One without text says nothing; of several,
those not connected by AND stand between parentheses. -/
def allOf (conditions : List (Conjunction × Draft)) : Draft :=
  match conditions.filter fun (_, draft) => !draft.isSilent with
  | [] => {}
  | [(_, draft)] => draft
  | several =>
    join " AND " (several.map fun (conjunction, draft) =>
      if conjunction = .and then draft else draft.parenthesized)

def grouped (draft : Draft) : List Draft :=
  if draft.isSilent then [] else [draft.parenthesized]

/-- A list after a blank, where a single nameless column may have no text. -/
def columnList (columns : List Draft) : Draft :=
  match columns with
  | [{ pieces := [.name ""], failure := none }] => { pieces := [.unnamedColumn] }
  | _ => ledBy " " (join ", " columns)

theorem columnList_of_ne {columns : List Draft}
    (named : columns ≠ [{ pieces := [.name ""] }]) :
    columnList columns = ledBy " " (join ", " columns) := by
  unfold columnList
  split
  · simp at named
  · rfl

end Draft

namespace Layer

/-- What all layers return.  It is not enumerated unless each has a table. -/
def returned (layers : List Layer) : Draft :=
  match layers.mapM Layer.columns with
  | none => .fail .enumeratedTable
  | some columns =>
    .columnList (columns.flatten ++ layers.flatMap queryColumns ++
      layers.flatMap valueColumns ++ layers.flatMap functionColumns)

def selection (select : Select) (layers : List Layer) : Draft :=
  match select.count with
  | some count => .ofText " " ++ count.draft
  | none => returned layers

def compose (select : Select) (own : Layer) (joined : List Layer) : Draft :=
  match select.table with
  | none => .fail .selectTable
  | some table =>
    .withTable table fun source =>
      let layers := own :: joined
      .ofText (if select.distinct then "SELECT DISTINCT" else "SELECT") ++
        selection select layers ++
        .ofText " FROM " ++ { pieces := source } ++
        .sequence (joined.map fun layer => .ofText " " ++ layer.join) ++
        .ledBy " WHERE " (.allOf (layers.filterMap filter)) ++
        (if select.groupBy.isEmpty then {}
          else .ofText " GROUP BY " ++ .join ", " (select.groupBy.map Column.reference)) ++
        .ledBy " HAVING " (.allOf (layers.filterMap having)) ++
        (if (layers.flatMap orderBy).isEmpty then {}
          else .ofText " ORDER BY " ++ .join ", " (layers.flatMap orderBy)) ++
        select.window.draft

def draft (select : Select) (own : Layer) (joined : List Layer) : Draft :=
  .under select.comment (if select.isJoin then own.join else compose select own joined)

def joinDraft (table : Option Table) (joinType : Option JoinType) (link : Draft) : Draft :=
  match table with
  | none => .fail .joinTable
  | some table =>
    .withTable table fun source =>
      .ofText ((joinType.getD .plain).keyword ++ " ") ++ { pieces := source } ++
        .ledBy " ON " link

end Layer

mutual

def Operand.draft : Operand → Draft
  | .value bound => .ofValue bound
  | .column column => column.reference
  | .select select =>
    (Layer.draft select select.layer select.joinedLayers).parenthesized

def ComparisonClause.drafts : List ComparisonClause → List Draft
  | [] => []
  | { subject, relation, target } :: rest =>
    .comparison subject relation target.draft :: ComparisonClause.drafts rest

def ExistenceClause.drafts : List ExistenceClause → List Draft
  | [] => []
  | { select, negated } :: rest =>
    .negatedIf negated (.exists (Layer.draft select select.layer select.joinedLayers)) ::
      ExistenceClause.drafts rest

/-- The clauses of a condition in a fixed order of their kinds, connected by its
conjunction. -/
def Condition.draft : Condition → Draft
  | { conjunction, comparisons, ranges, memberships, nullChecks, bits, searches,
      existences, literals, subconditions, .. } =>
    .join (" " ++ conjunction.keyword ++ " ")
      (searches.map SearchClause.draft ++ MembershipClause.drafts memberships ++
        ranges.map RangeClause.draft ++ ComparisonClause.drafts comparisons ++
        nullChecks.map NullClause.draft ++ bits.map BitClause.draft ++
        ExistenceClause.drafts existences ++ literals.map Draft.ofText ++
        Condition.subdrafts subconditions)

def Condition.subdrafts : List Condition → List Draft
  | [] => []
  | condition :: rest =>
    condition.draft.grouped ++ Condition.subdrafts rest

def Condition.connected : Option Condition → Option (Conjunction × Draft)
  | none => none
  | some condition => some (condition.conjunction, condition.draft)

def QueryColumn.drafts : List QueryColumn → List Draft
  | [] => []
  | { select, aliasName } :: rest =>
    (Layer.draft select select.layer select.joinedLayers).parenthesized.aliased aliasName ::
      QueryColumn.drafts rest

def Select.layer : Select → Layer
  | select@{ table, joinType, link, queryColumns, filter, having, .. } =>
    { columns := select.ownColumns.toOption.map (·.map Column.selected)
      queryColumns := QueryColumn.drafts queryColumns
      valueColumns := select.valueColumns.map ValueColumn.draft
      functionColumns := select.functionColumns.map FunctionColumn.draft
      join := Layer.joinDraft table joinType link.draft
      filter := Condition.connected filter
      having := Condition.connected having
      orderBy := select.orderBy.map OrderBy.draft }

/-- What all joins of a SELECT contribute, depth first. -/
def Select.joinedLayers : Select → List Layer
  | { joins, .. } => Select.layersOf joins

def Select.layersOf : List Select → List Layer
  | [] => []
  | select :: rest => select.layer :: (select.joinedLayers ++ Select.layersOf rest)

end

theorem Select.layer_eq (select : Select) :
    select.layer =
      { columns := select.ownColumns.toOption.map (·.map Column.selected)
        queryColumns := QueryColumn.drafts select.queryColumns
        valueColumns := select.valueColumns.map ValueColumn.draft
        functionColumns := select.functionColumns.map FunctionColumn.draft
        join := Layer.joinDraft select.table select.joinType select.link.draft
        filter := Condition.connected select.filter
        having := Condition.connected select.having
        orderBy := select.orderBy.map OrderBy.draft } := by
  cases select
  rw [layer]

def Select.draft (select : Select) : Draft :=
  Layer.draft select select.layer select.joinedLayers

end BoundSql
