import BoundSql.Proofs.Draft.Piecewise
import BoundSql.Proofs.Draft.Statements
import BoundSql.Proofs.Placeholder.Numbering
import BoundSql.Statement.Masked
/-!
# Masking

The draft of a masked statement is the draft of the statement with masked values.
Placeholders do not show their values, so that the text of a statement and the tokens
of its parameters are those of the masked statement: nothing of a bound value gets
into the text.
-/

namespace BoundSql

def Piece.masked : Piece → Piece
  | .value _ => .value .mask
  | piece => piece

/-- A draft with all its values masked. -/
def Draft.masked (draft : Draft) : Draft :=
  { pieces := draft.pieces.map Piece.masked, failure := draft.failure }

/-- A layer with all its drafts masked. -/
def Layer.masked (layer : Layer) : Layer where
  columns := layer.columns.map (List.map Draft.masked)
  queryColumns := layer.queryColumns.map Draft.masked
  valueColumns := layer.valueColumns.map Draft.masked
  functionColumns := layer.functionColumns.map Draft.masked
  join := layer.join.masked
  filter := layer.filter.map fun (conjunction, draft) => (conjunction, draft.masked)
  having := layer.having.map fun (conjunction, draft) => (conjunction, draft.masked)
  orderBy := layer.orderBy.map Draft.masked

/-! ### Composing -/

@[simp] theorem Piece.isSilent_masked (piece : Piece) : piece.masked.isSilent = piece.isSilent := by
  cases piece <;> rfl

namespace Draft

@[simp] theorem masked_empty : masked {} = {} := rfl

@[simp] theorem masked_fail (lack : Lack) : (Draft.fail lack).masked = .fail lack := rfl

@[simp] theorem masked_ofText (content : String) : (ofText content).masked = ofText content := rfl

@[simp] theorem masked_ofValue (value : Value) : (ofValue value).masked = ofValue .mask := rfl

@[simp] theorem masked_append (first second : Draft) :
    (first ++ second).masked = first.masked ++ second.masked := by
  change (first.append second).masked = first.masked.append second.masked
  rcases first with ⟨pieces, _ | lack⟩ <;> simp [append, masked]

theorem isPiecewise_masked : IsPiecewise masked where
  empty := rfl
  fail _ := rfl
  ofText _ := rfl
  append := masked_append

@[simp] theorem masked_parenthesized (draft : Draft) :
    draft.parenthesized.masked = draft.masked.parenthesized :=
  isPiecewise_masked.parenthesized draft

@[simp] theorem masked_exists (select : Draft) : select.exists.masked = select.masked.exists :=
  isPiecewise_masked.exists select

@[simp] theorem masked_negatedIf (negated : Bool) (draft : Draft) :
    (draft.negatedIf negated).masked = draft.masked.negatedIf negated :=
  isPiecewise_masked.negatedIf negated draft

@[simp] theorem masked_join (separator : String) (drafts : List Draft) :
    (join separator drafts).masked = join separator (drafts.map masked) :=
  isPiecewise_masked.join separator drafts

@[simp] theorem masked_sequence (drafts : List Draft) :
    (sequence drafts).masked = sequence (drafts.map masked) :=
  isPiecewise_masked.sequence drafts

@[simp] theorem isSilent_masked (draft : Draft) : draft.masked.isSilent = draft.isSilent := by
  simp [isSilent, masked, Function.comp_def]

@[simp] theorem masked_ledBy (lead : String) (draft : Draft) :
    (draft.ledBy lead).masked = draft.masked.ledBy lead :=
  isPiecewise_masked.ledBy lead draft.isSilent_masked

@[simp] theorem masked_under (comment : Option String) (draft : Draft) :
    (draft.under comment).masked = draft.masked.under comment := by
  cases comment with
  | none => rfl
  | some comment => exact masked_append _ _

@[simp] theorem map_masked_grouped (draft : Draft) :
    draft.grouped.map masked = draft.masked.grouped :=
  isPiecewise_masked.grouped draft.isSilent_masked

@[simp] theorem masked_allOf (conditions : List (Conjunction × Draft)) :
    (allOf conditions).masked =
      allOf (conditions.map fun (conjunction, draft) => (conjunction, draft.masked)) :=
  isPiecewise_masked.allOf fun condition _ => condition.2.isSilent_masked

@[simp] theorem masked_columnList (columns : List Draft) :
    (columnList columns).masked = columnList (columns.map masked) := by
  have nameless : ∀ column : Draft, column.masked = { pieces := [.name ""] } ↔
      column = { pieces := [.name ""] } := by
    intro column
    obtain ⟨pieces, failure⟩ := column
    simp only [masked, mk.injEq, List.map_eq_singleton_iff]
    refine and_congr_left fun _ => ⟨?_, ?_⟩
    · rintro ⟨piece, rfl, same⟩
      cases piece <;> simp_all [Piece.masked]
    · rintro rfl
      exact ⟨_, rfl, rfl⟩
  exact isPiecewise_masked.columnList rfl (fun column _ => nameless column) (isSilent_masked _)

/-- A clause that can be left out. -/
@[simp] theorem masked_ite (absent : Prop) [Decidable absent] (draft : Draft) :
    (if absent then {} else draft).masked = if absent then {} else draft.masked :=
  isPiecewise_masked.ite absent draft

theorem withTable_masked {table : Table} {body maskedBody : List Piece → Draft}
    (same : maskedBody table.pieces = (body table.pieces).masked) :
    withTable table maskedBody = (withTable table body).masked :=
  isPiecewise_masked.withTable same

end Draft

/-! ### Names and clauses -/

theorem Piece.map_masked {pieces : List Piece} (valueless : pieces.flatMap values = []) :
    pieces.map masked = pieces := by
  have same : ∀ piece ∈ pieces, piece.masked = id piece := by
    intro piece member
    have none := List.flatMap_eq_nil_iff.mp valueless piece member
    cases piece <;> simp_all [masked, values]
  rw [List.map_congr_left same, List.map_id]

namespace Draft

theorem masked_of_valueless {pieces : List Piece} (valueless : pieces.flatMap Piece.values = []) :
    masked { pieces } = { pieces } := by
  simp [masked, Piece.map_masked valueless]

@[simp] theorem masked_reference (column : Column) :
    column.reference.masked = column.reference := by
  apply masked_of_valueless
  unfold Column.pieces
  cases column.table <;> simp

@[simp] theorem masked_selected (column : Column) : column.selected.masked = column.selected := by
  apply masked_of_valueless
  unfold Column.pieces
  cases column.table <;> cases column.isWildcard <;> simp

@[simp] theorem masked_pieces (table : Table) :
    masked { pieces := table.pieces } = { pieces := table.pieces } :=
  masked_of_valueless (by simp [Table.pieces])

@[simp] theorem masked_ofAlias (aliasName : Option String) :
    masked { pieces := Piece.ofAlias aliasName } = { pieces := Piece.ofAlias aliasName } :=
  masked_of_valueless (by simp)

@[simp] theorem masked_aliased (aliasName : String) (draft : Draft) :
    (draft.aliased aliasName).masked = draft.masked.aliased aliasName := by
  simp [aliased]

end Draft

@[simp] theorem SearchClause.draft_masked (clause : SearchClause) :
    clause.masked.draft = clause.draft.masked := by
  simp [draft, body, masked, subject, Function.comp_def]

@[simp] theorem MembershipClause.draft_masked (clause : MembershipClause) :
    clause.masked.draft = clause.draft.masked := by
  by_cases empty : clause.values.isEmpty <;> cases negated : clause.negated <;>
    simp_all [draft, body, masked, Function.comp_def]

@[simp] theorem MembershipClause.drafts_masked (clauses : List MembershipClause) :
    drafts (clauses.map masked) = (drafts clauses).map Draft.masked := by
  have void : ∀ clause : MembershipClause, clause.masked.isVoid = clause.isVoid := by
    intro clause
    cases values : clause.values <;> simp [masked, isVoid, values]
  simp [drafts, List.filter_map, Function.comp_def, void]

@[simp] theorem RangeClause.draft_masked (clause : RangeClause) :
    clause.masked.draft = clause.draft.masked := by
  simp [draft, body, masked]

@[simp] theorem NullClause.masked_draft (clause : NullClause) :
    clause.draft.masked = clause.draft := by
  simp [draft, body]

@[simp] theorem BitClause.draft_masked (clause : BitClause) :
    clause.masked.draft = clause.draft.masked := by
  simp [draft, body, masked]

@[simp] theorem ValueColumn.draft_masked (column : ValueColumn) :
    column.masked.draft = column.draft.masked := by
  simp [draft, masked]

@[simp] theorem FunctionColumn.masked_draft (column : FunctionColumn) :
    column.draft.masked = column.draft := by
  unfold draft
  split <;> simp [Function.comp_def]

@[simp] theorem Count.masked_draft (count : Count) : count.draft.masked = count.draft := by
  unfold draft
  cases count.column <;> simp

@[simp] theorem OrderBy.masked_draft (entry : OrderBy) : entry.draft.masked = entry.draft := by
  simp [draft]

@[simp] theorem Window.draft_masked (window : Window) :
    window.masked.draft = window.draft.masked := by
  by_cases set : window.isSet
  · have stillSet : isSet { start := some 0, count := some 0 } := rfl
    simp [masked, draft, set, stillSet, Value.mask]
  · have unset : ¬ isSet {} := by simp [isSet]
    simp [masked, draft, set, unset]

@[simp] theorem Draft.limit_masked (limit : Option Nat) :
    Draft.limit (limit.map fun _ => 0) = (Draft.limit limit).masked := by
  cases limit <;> simp [Draft.limit, Value.mask]

@[simp] theorem Assignment.draft_masked (assignment : Assignment) :
    assignment.masked.draft = assignment.draft.masked := by
  simp [draft, masked]

/-! ### Conditions and SELECT statements -/

theorem Select.masked_eq (select : Select) :
    select.masked =
      { select with
        link := select.link.masked
        queryColumns := QueryColumn.maskedAll select.queryColumns
        valueColumns := select.valueColumns.map ValueColumn.masked
        joins := Select.maskedAll select.joins
        filter := Condition.masked? select.filter
        having := Condition.masked? select.having
        window := select.window.masked } := by
  cases select
  rw [masked]

namespace Layer

theorem returned_masked (layers : List Layer) :
    returned (layers.map masked) = (returned layers).masked := by
  unfold returned
  rw [mapM_columns_map (fun layer => by rfl : ∀ layer : Layer, layer.masked.columns = _)]
  cases layers.mapM columns with
  | none => rfl
  | some columns =>
    simp [List.map_flatten, List.flatMap_map, List.map_flatMap, masked]

theorem selection_masked (select : Select) (layers : List Layer) :
    selection select.masked (layers.map masked) = (selection select layers).masked := by
  unfold selection
  rw [Select.masked_eq]
  cases select.count with
  | none => exact returned_masked layers
  | some count => simp

theorem filterMap_masked {place : Layer → Option (Conjunction × Draft)}
    (placed : ∀ layer : Layer, place layer.masked =
      (place layer).map fun (conjunction, draft) => (conjunction, draft.masked))
    (layers : List Layer) :
    Draft.allOf ((layers.map masked).filterMap place) =
      (Draft.allOf (layers.filterMap place)).masked := by
  simp [List.filterMap_map, List.map_filterMap, placed]

theorem compose_masked (select : Select) (own : Layer) (joined : List Layer) :
    compose select.masked own.masked (joined.map masked) =
      (compose select own joined).masked := by
  have layers : own.masked :: joined.map masked = (own :: joined).map masked := rfl
  have filters := filterMap_masked (fun layer => by rfl : ∀ layer : Layer, layer.masked.filter = _)
    (own :: joined)
  have havings := filterMap_masked (fun layer => by rfl : ∀ layer : Layer, layer.masked.having = _)
    (own :: joined)
  have orderBy : ((own :: joined).map masked).flatMap orderBy =
      ((own :: joined).flatMap Layer.orderBy).map Draft.masked := by
    simp [List.flatMap_map, List.map_flatMap, masked]
  unfold compose
  dsimp only
  rw [layers, selection_masked, filters, havings, orderBy, Select.masked_eq]
  dsimp only
  cases select.table with
  | none => rfl
  | some table =>
    apply Draft.withTable_masked
    simp [Function.comp_def, masked]

theorem draft_masked (select : Select) {own : Layer} {joined : List Layer}
    (ownMasked : select.masked.layer = own.masked)
    (joinedMasked : select.masked.joinedLayers = joined.map masked) :
    draft select.masked select.masked.layer select.masked.joinedLayers =
      (draft select own joined).masked := by
  have comment : select.masked.comment = select.comment := by rw [Select.masked_eq]
  have isJoin : select.masked.isJoin = select.isJoin := by rw [Select.masked_eq]; rfl
  unfold draft
  rw [ownMasked, joinedMasked, compose_masked, comment, isJoin, Draft.masked_under]
  congr 1
  split <;> rfl

theorem joinDraft_masked (table : Option Table) (joinType : Option JoinType) (link : Draft) :
    joinDraft table joinType link.masked = (joinDraft table joinType link).masked := by
  unfold joinDraft
  cases table with
  | none => rfl
  | some table =>
    apply Draft.withTable_masked
    simp

end Layer

mutual

theorem Operand.draft_masked : (operand : Operand) → operand.masked.draft = operand.draft.masked
  | .value bound => by simp [Operand.masked, Operand.draft]
  | .column column => by simp [Operand.masked, Operand.draft]
  | .select select => by
    simp [Operand.masked, Operand.draft, Layer.draft_masked select (Select.layer_masked select)
      (Select.joinedLayers_masked select)]

theorem ComparisonClause.drafts_masked : (clauses : List ComparisonClause) →
    ComparisonClause.drafts (ComparisonClause.maskedAll clauses) =
      (ComparisonClause.drafts clauses).map Draft.masked
  | [] => by simp [ComparisonClause.maskedAll, ComparisonClause.drafts]
  | { subject, relation, target } :: rest => by
    simp [ComparisonClause.maskedAll, ComparisonClause.drafts, Draft.comparison,
      Operand.draft_masked target, ComparisonClause.drafts_masked rest]

theorem ExistenceClause.drafts_masked : (clauses : List ExistenceClause) →
    ExistenceClause.drafts (ExistenceClause.maskedAll clauses) =
      (ExistenceClause.drafts clauses).map Draft.masked
  | [] => by simp [ExistenceClause.maskedAll, ExistenceClause.drafts]
  | { select, negated } :: rest => by
    simp [ExistenceClause.maskedAll, ExistenceClause.drafts,
      Layer.draft_masked select (Select.layer_masked select) (Select.joinedLayers_masked select),
      ExistenceClause.drafts_masked rest]

theorem Condition.draft_masked : (condition : Condition) →
    condition.masked.draft = condition.draft.masked
  | { comparisons, existences, subconditions, .. } => by
    simp [Condition.masked, Condition.draft, ComparisonClause.drafts_masked comparisons,
      ExistenceClause.drafts_masked existences, Condition.subdrafts_masked subconditions,
      Function.comp_def]

theorem Condition.subdrafts_masked : (conditions : List Condition) →
    Condition.subdrafts (Condition.maskedAll conditions) =
      (Condition.subdrafts conditions).map Draft.masked
  | [] => by simp [Condition.maskedAll, Condition.subdrafts]
  | condition :: rest => by
    simp [Condition.maskedAll, Condition.subdrafts, Condition.draft_masked condition,
      Condition.subdrafts_masked rest]

theorem Condition.connected_masked : (condition : Option Condition) →
    Condition.connected (Condition.masked? condition) =
      (Condition.connected condition).map fun (conjunction, draft) => (conjunction, draft.masked)
  | none => rfl
  | some condition => by
    have conjunction : condition.masked.conjunction = condition.conjunction := by
      cases condition
      rw [Condition.masked]
    simp [Condition.masked?, Condition.connected, Condition.draft_masked condition, conjunction]

theorem QueryColumn.drafts_masked : (columns : List QueryColumn) →
    QueryColumn.drafts (QueryColumn.maskedAll columns) =
      (QueryColumn.drafts columns).map Draft.masked
  | [] => by simp [QueryColumn.maskedAll, QueryColumn.drafts]
  | { select, aliasName } :: rest => by
    simp [QueryColumn.maskedAll, QueryColumn.drafts,
      Layer.draft_masked select (Select.layer_masked select) (Select.joinedLayers_masked select),
      QueryColumn.drafts_masked rest]

theorem Select.layer_masked : (select : Select) → select.masked.layer = select.layer.masked
  | { link, queryColumns, filter, having, .. } => by
    simp [Select.masked, Select.layer, Layer.masked, QueryColumn.drafts_masked queryColumns,
      Condition.draft_masked link, Condition.connected_masked filter,
      Condition.connected_masked having, Layer.joinDraft_masked, Function.comp_def]
    rfl

theorem Select.joinedLayers_masked : (select : Select) →
    select.masked.joinedLayers = select.joinedLayers.map Layer.masked
  | { joins, .. } => by
    simp [Select.masked, Select.joinedLayers, Select.layersOf_masked joins]

theorem Select.layersOf_masked : (selects : List Select) →
    Select.layersOf (Select.maskedAll selects) = (Select.layersOf selects).map Layer.masked
  | [] => rfl
  | select :: rest => by
    simp [Select.maskedAll, Select.layersOf, Select.layer_masked select,
      Select.joinedLayers_masked select, Select.layersOf_masked rest]

end

theorem Select.draft_masked (select : Select) : select.masked.draft = select.draft.masked :=
  Layer.draft_masked select (layer_masked select) (joinedLayers_masked select)

/-! ### Statements -/

namespace Draft

theorem restriction_masked (condition : Option Condition) :
    restriction (Condition.masked? condition) = (restriction condition).masked := by
  cases condition with
  | none => rfl
  | some condition => simp [Condition.masked?, restriction, Condition.draft_masked]

theorem members_masked (kind : Kind) (selects : List Select) :
    Draft.members kind (Select.maskedAll selects) = (Draft.members kind selects).masked := by
  have all : Select.maskedAll selects = selects.map Select.masked := by
    induction selects with
    | nil => rfl
    | cons select rest ih => simp [Select.maskedAll, ih]
  unfold Draft.members
  cases selects with
  | nil => rfl
  | cons first rest => simp [all, Function.comp_def, Select.draft_masked]

end Draft

theorem Statement.draft_masked (statement : Statement) :
    statement.masked.draft = statement.draft.masked := by
  cases statement with
  | select statement => exact statement.draft_masked
  | insert statement =>
    simp only [masked, draft, Insert.draft, Draft.masked_under, List.isEmpty_map]
    congr 1
    split
    · rfl
    · apply Draft.withTable_masked
      simp [Insert.columns, Function.comp_def, Assignment.masked]
  | update statement =>
    simp only [masked, draft, Update.draft, Draft.masked_under, List.isEmpty_map]
    congr 1
    split
    · rfl
    · apply Draft.withTable_masked
      simp [Draft.restriction_masked, Function.comp_def]
  | delete statement =>
    simp only [masked, draft, Delete.draft, Draft.masked_under]
    congr 1
    apply Draft.withTable_masked
    simp [Draft.restriction_masked]
  | combination statement =>
    simp [masked, draft, Combination.draft, Draft.members_masked]
  | difference statement =>
    simp [masked, draft, Difference.draft, ← Draft.members_masked, Difference.members,
      Select.maskedAll]

/-! ### Compiling -/

/-- What can be seen of a compiled statement: its text and the tokens of its
parameters, without the values. -/
def Compiled.visible (compiled : Compiled) : String × List String :=
  (compiled.sql, compiled.parameters.tokens)

namespace Draft

theorem length_values_masked (pieces : List Piece) :
    ((pieces.map Piece.masked).flatMap Piece.values).length =
      (pieces.flatMap Piece.values).length := by
  have same : ∀ piece : Piece, piece.masked.values.length = piece.values.length := by
    intro piece
    cases piece <;> rfl
  simp [List.flatMap_map, List.length_flatMap, same]

theorem render_masked (dialect : Dialect) (number : Nat) (pieces : List Piece) :
    render dialect number (pieces.map Piece.masked) = render dialect number pieces := by
  induction pieces generalizing number with
  | nil => rfl
  | cons piece rest ih =>
    cases piece <;> simp [render, Piece.masked, Piece.render, Piece.values, ih]

end Draft

namespace Statement

theorem visible_masked (statement : Statement) (dialect : Dialect) :
    (statement.masked.compile dialect).map Compiled.visible =
      (statement.compile dialect).map Compiled.visible := by
  rw [compile_eq, compile_eq, draft_masked]
  have lacks : statement.draft.masked.failure = statement.draft.failure := rfl
  have values : statement.draft.masked.values.length = statement.draft.values.length :=
    Draft.length_values_masked _
  rw [lacks]
  cases statement.draft.failure with
  | some lack => rfl
  | none =>
    simp only [Except.map, Compiled.visible, Parameters.tokens_bindAll, values]
    rw [← Draft.render_masked dialect 1 statement.draft.pieces]
    rfl

/-- Statements that differ only in their values have the same text and tokens, or
lack the same. -/
theorem visible_compile {first second : Statement} (same : first.masked = second.masked)
    (dialect : Dialect) :
    (first.compile dialect).map Compiled.visible =
      (second.compile dialect).map Compiled.visible := by
  rw [← visible_masked first, ← visible_masked second, same]

/-- A search with some values and a membership in a list of two. -/
def probe (searched : List Value) (first second : Value) (rows : Nat) : Statement :=
  .select
    { table := some { name := "t" }
      link := {}
      filter := some
        { searches := [{ columns := [{ name := "a" }], values := searched, mode := .natural }]
          memberships :=
            [{ subject := { name := "b" }, values := [first, second], negated := false }] }
      window := { count := some rows } }

theorem visible_compile_probe :
    ((probe [] .null (.text "") 0).compile .mysql).map Compiled.visible =
      ((probe [.text "x' OR :v9", .bool true] (.text "') --") (.integer 7) 5).compile .mysql).map
        Compiled.visible :=
  visible_compile rfl .mysql

end Statement

end BoundSql
