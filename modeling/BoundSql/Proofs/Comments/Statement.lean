import BoundSql.Proofs.Comments.Draft
import BoundSql.Statement.Uncommented
/-!
# Drafts of statements without comments

The draft of a statement without comments is the draft of the statement without its
comments.
-/

namespace BoundSql

/-- A layer with no comments in its drafts. -/
def Layer.uncommented (layer : Layer) : Layer where
  columns := layer.columns.map (List.map Draft.uncommented)
  queryColumns := layer.queryColumns.map Draft.uncommented
  valueColumns := layer.valueColumns.map Draft.uncommented
  functionColumns := layer.functionColumns.map Draft.uncommented
  join := layer.join.uncommented
  filter := layer.filter.map fun (conjunction, draft) => (conjunction, draft.uncommented)
  having := layer.having.map fun (conjunction, draft) => (conjunction, draft.uncommented)
  orderBy := layer.orderBy.map Draft.uncommented

/-! ### What can be seen -/

/-- Whether what a layer may leave out is steady. -/
structure Layer.Steady (layer : Layer) : Prop where
  columns : ∀ columns ∈ layer.columns, ∀ column ∈ columns, column.Steady
  queryColumns : ∀ column ∈ layer.queryColumns, column.Steady
  valueColumns : ∀ column ∈ layer.valueColumns, column.Steady
  functionColumns : ∀ column ∈ layer.functionColumns, column.Steady
  filter : ∀ condition ∈ layer.filter, condition.2.Steady
  having : ∀ condition ∈ layer.having, condition.2.Steady

theorem ComparisonClause.steady_drafts (clauses : List ComparisonClause) :
    ∀ draft ∈ drafts clauses, draft.Steady := by
  induction clauses with
  | nil => simp [drafts]
  | cons clause rest ih =>
    obtain ⟨subject, relation, target⟩ := clause
    rw [drafts, List.forall_mem_cons]
    exact ⟨.inr (by simp [Draft.comparison]), ih⟩

theorem ExistenceClause.steady_drafts (clauses : List ExistenceClause) :
    ∀ draft ∈ drafts clauses, draft.Steady := by
  induction clauses with
  | nil => simp [drafts]
  | cons clause rest ih =>
    obtain ⟨select, negated⟩ := clause
    rw [drafts, List.forall_mem_cons]
    exact ⟨.inr (by simp), ih⟩

theorem Condition.steady_subdrafts (conditions : List Condition) :
    ∀ draft ∈ subdrafts conditions, draft.Steady := by
  induction conditions with
  | nil => simp [subdrafts]
  | cons condition rest ih =>
    have first : ∀ draft ∈ condition.draft.grouped, draft.Steady := by
      unfold Draft.grouped
      split
      · simp
      · rw [List.forall_mem_singleton]
        exact .inr (by simp)
    rw [subdrafts, List.forall_mem_append]
    exact ⟨first, ih⟩

theorem Condition.steady_draft (condition : Condition) : condition.draft.Steady := by
  obtain ⟨table, conjunction, comparisons, ranges, memberships, nullChecks, bits, searches,
    existences, literals, subconditions⟩ := condition
  rw [draft]
  apply Draft.steady_join (by simp)
  simp only [List.forall_mem_append, List.forall_mem_map]
  refine ⟨⟨⟨⟨⟨⟨⟨⟨?_, ?_⟩, ?_⟩, ?_⟩, ?_⟩, ?_⟩, ?_⟩, ?_⟩, ?_⟩
  · exact fun clause _ => .inl clause.uncommented_draft
  · intro draft mem
    obtain ⟨clause, -, rfl⟩ := List.mem_map.mp mem
    exact .inl clause.uncommented_draft
  · exact fun clause _ => .inl clause.uncommented_draft
  · exact ComparisonClause.steady_drafts comparisons
  · exact fun clause _ => .inl clause.uncommented_draft
  · exact fun clause _ => .inl clause.uncommented_draft
  · exact ExistenceClause.steady_drafts existences
  · exact fun literal _ => .inl rfl
  · exact Condition.steady_subdrafts subconditions

theorem Condition.steady_connected (condition : Option Condition) :
    ∀ connected ∈ Condition.connected condition, connected.2.Steady := by
  cases condition with
  | none => simp [connected]
  | some condition => simpa [connected] using condition.steady_draft

theorem QueryColumn.steady_drafts (columns : List QueryColumn) :
    ∀ draft ∈ drafts columns, draft.Steady := by
  induction columns with
  | nil => simp [drafts]
  | cons column rest ih =>
    obtain ⟨select, aliasName⟩ := column
    rw [drafts, List.forall_mem_cons]
    exact ⟨.inr (by simp [Draft.aliased]), ih⟩

theorem Select.steady_layer (select : Select) : select.layer.Steady := by
  rw [layer_eq]
  constructor
  case columns =>
    intro columns enumerated column mem
    obtain ⟨own, -, rfl⟩ := Option.map_eq_some_iff.mp enumerated
    obtain ⟨source, -, rfl⟩ := List.mem_map.mp mem
    exact .inl (Draft.uncommented_selected source)
  case queryColumns => exact QueryColumn.steady_drafts _
  case valueColumns =>
    rw [List.forall_mem_map]
    exact fun column _ => .inl column.uncommented_draft
  case functionColumns =>
    rw [List.forall_mem_map]
    exact fun column _ => .inl column.uncommented_draft
  case filter => exact Condition.steady_connected _
  case having => exact Condition.steady_connected _

theorem Select.steady_joinedLayers (select : Select) :
    ∀ layer ∈ select.joinedLayers, layer.Steady := by
  rw [joinedLayers_eq, List.forall_mem_map]
  exact fun join _ => join.steady_layer

/-! ### Layers -/

theorem Select.uncommented_eq (select : Select) :
    select.uncommented =
      { select with
        comment := none
        link := select.link.uncommented
        queryColumns := QueryColumn.uncommentedAll select.queryColumns
        joins := Select.uncommentedAll select.joins
        filter := Condition.uncommented? select.filter
        having := Condition.uncommented? select.having } := by
  cases select
  rw [uncommented]

namespace Layer

theorem returned_uncommented {layers : List Layer} (steady : ∀ layer ∈ layers, layer.Steady) :
    returned (layers.map uncommented) = (returned layers).uncommented := by
  unfold returned
  rw [mapM_columns_map (fun layer => by rfl : ∀ layer : Layer, layer.uncommented.columns = _)]
  cases enumerated : layers.mapM columns with
  | none => rfl
  | some columns =>
    have all : ∀ column ∈ columns.flatten ++ layers.flatMap queryColumns ++
        layers.flatMap valueColumns ++ layers.flatMap functionColumns, column.Steady := by
      simp only [List.forall_mem_append, List.forall_mem_flatten, List.forall_mem_flatMap]
      refine ⟨⟨⟨?_, ?_⟩, ?_⟩, ?_⟩
      · intro list mem
        obtain ⟨layer, among, own⟩ := exists_of_mapM_columns enumerated list mem
        exact (steady layer among).columns list own
      · exact fun layer mem => (steady layer mem).queryColumns
      · exact fun layer mem => (steady layer mem).valueColumns
      · exact fun layer mem => (steady layer mem).functionColumns
    rw [Option.map_some, Draft.uncommented_columnList all]
    simp [List.map_flatten, List.flatMap_map, List.map_flatMap, uncommented]

theorem selection_uncommented (select : Select) {layers : List Layer}
    (steady : ∀ layer ∈ layers, layer.Steady) :
    selection select.uncommented (layers.map uncommented) =
      (selection select layers).uncommented := by
  unfold selection
  rw [Select.uncommented_eq]
  cases select.count with
  | none => exact returned_uncommented steady
  | some count => simp

/-- Conditions of the same place in several layers. -/
theorem conditions_uncommented {place : Layer → Option (Conjunction × Draft)}
    (placed : ∀ layer : Layer, place layer.uncommented =
      (place layer).map fun (conjunction, draft) => (conjunction, draft.uncommented))
    {layers : List Layer}
    (steady : ∀ layer ∈ layers, ∀ condition ∈ place layer, condition.2.Steady)
    (lead : String) :
    Draft.ledBy lead (.allOf ((layers.map uncommented).filterMap place)) =
      (Draft.ledBy lead (.allOf (layers.filterMap place))).uncommented := by
  have all : ∀ condition ∈ layers.filterMap place, condition.2.Steady := by
    intro condition mem
    obtain ⟨layer, among, own⟩ := List.mem_filterMap.mp mem
    exact steady layer among condition own
  rw [(Draft.steady_allOf all).uncommented_ledBy, Draft.uncommented_allOf all]
  simp [List.filterMap_map, List.map_filterMap, placed]

theorem compose_uncommented (select : Select) {own : Layer} {joined : List Layer}
    (steady : ∀ layer ∈ own :: joined, layer.Steady) :
    compose select.uncommented own.uncommented (joined.map uncommented) =
      (compose select own joined).uncommented := by
  have layers : own.uncommented :: joined.map uncommented = (own :: joined).map uncommented :=
    rfl
  have filters := conditions_uncommented
    (fun layer => by rfl : ∀ layer : Layer, layer.uncommented.filter = _)
    (fun layer mem => (steady layer mem).filter) " WHERE "
  have havings := conditions_uncommented
    (fun layer => by rfl : ∀ layer : Layer, layer.uncommented.having = _)
    (fun layer mem => (steady layer mem).having) " HAVING "
  have orderBy : ((own :: joined).map uncommented).flatMap orderBy =
      ((own :: joined).flatMap Layer.orderBy).map Draft.uncommented := by
    simp [List.flatMap_map, List.map_flatMap, uncommented]
  unfold compose
  dsimp only
  rw [layers, selection_uncommented select steady, filters, havings, orderBy,
    Select.uncommented_eq]
  dsimp only
  cases select.table with
  | none => rfl
  | some table =>
    apply Draft.withTable_uncommented
    simp [Function.comp_def, uncommented]

theorem draft_uncommented (select : Select)
    (own : select.uncommented.layer = select.layer.uncommented)
    (joined : select.uncommented.joinedLayers = select.joinedLayers.map uncommented) :
    draft select.uncommented select.uncommented.layer select.uncommented.joinedLayers =
      (draft select select.layer select.joinedLayers).uncommented := by
  have comment : select.uncommented.comment = none := by rw [Select.uncommented_eq]
  have isJoin : select.uncommented.isJoin = select.isJoin := by
    rw [Select.uncommented_eq]
    rfl
  have steady : ∀ layer ∈ select.layer :: select.joinedLayers, layer.Steady :=
    List.forall_mem_cons.mpr ⟨select.steady_layer, select.steady_joinedLayers⟩
  unfold draft
  rw [own, joined, compose_uncommented select steady, comment, isJoin, Draft.uncommented_under,
    Draft.under_none]
  split <;> rfl

theorem joinDraft_uncommented (table : Option Table) (joinType : Option JoinType) {link : Draft}
    (steady : link.Steady) :
    joinDraft table joinType link.uncommented = (joinDraft table joinType link).uncommented := by
  unfold joinDraft
  cases table with
  | none => rfl
  | some table =>
    apply Draft.withTable_uncommented
    simp [steady.uncommented_ledBy]

end Layer

/-! ### Conditions and SELECT statements -/

mutual

theorem Operand.draft_uncommented : (operand : Operand) →
    operand.uncommented.draft = operand.draft.uncommented
  | .value bound => by simp [Operand.uncommented, Operand.draft]
  | .column column => by simp [Operand.uncommented, Operand.draft]
  | .select select => by
    simp [Operand.uncommented, Operand.draft, Layer.draft_uncommented select
      (Select.layer_uncommented select) (Select.joinedLayers_uncommented select)]

theorem ComparisonClause.drafts_uncommented : (clauses : List ComparisonClause) →
    ComparisonClause.drafts (ComparisonClause.uncommentedAll clauses) =
      (ComparisonClause.drafts clauses).map Draft.uncommented
  | [] => by simp [ComparisonClause.uncommentedAll, ComparisonClause.drafts]
  | { subject, relation, target } :: rest => by
    simp [ComparisonClause.uncommentedAll, ComparisonClause.drafts, Draft.comparison,
      Operand.draft_uncommented target, ComparisonClause.drafts_uncommented rest]

theorem ExistenceClause.drafts_uncommented : (clauses : List ExistenceClause) →
    ExistenceClause.drafts (ExistenceClause.uncommentedAll clauses) =
      (ExistenceClause.drafts clauses).map Draft.uncommented
  | [] => by simp [ExistenceClause.uncommentedAll, ExistenceClause.drafts]
  | { select, negated } :: rest => by
    simp [ExistenceClause.uncommentedAll, ExistenceClause.drafts,
      Layer.draft_uncommented select (Select.layer_uncommented select)
        (Select.joinedLayers_uncommented select),
      ExistenceClause.drafts_uncommented rest]

theorem Condition.draft_uncommented : (condition : Condition) →
    condition.uncommented.draft = condition.draft.uncommented
  | { comparisons, memberships, existences, subconditions, .. } => by
    have members : (MembershipClause.drafts memberships).map Draft.uncommented =
        MembershipClause.drafts memberships := by
      simp [MembershipClause.drafts, Function.comp_def]
    simp [Condition.uncommented, Condition.draft, members,
      ComparisonClause.drafts_uncommented comparisons,
      ExistenceClause.drafts_uncommented existences,
      Condition.subdrafts_uncommented subconditions, Function.comp_def]

theorem Condition.subdrafts_uncommented : (conditions : List Condition) →
    Condition.subdrafts (Condition.uncommentedAll conditions) =
      (Condition.subdrafts conditions).map Draft.uncommented
  | [] => by simp [Condition.uncommentedAll, Condition.subdrafts]
  | condition :: rest => by
    simp [Condition.uncommentedAll, Condition.subdrafts, Condition.draft_uncommented condition,
      condition.steady_draft.map_uncommented_grouped, Condition.subdrafts_uncommented rest]

theorem Condition.connected_uncommented : (condition : Option Condition) →
    Condition.connected (Condition.uncommented? condition) =
      (Condition.connected condition).map fun (conjunction, draft) =>
        (conjunction, draft.uncommented)
  | none => rfl
  | some condition => by
    have conjunction : condition.uncommented.conjunction = condition.conjunction := by
      cases condition
      rw [Condition.uncommented]
    simp [Condition.uncommented?, Condition.connected, Condition.draft_uncommented condition,
      conjunction]

theorem QueryColumn.drafts_uncommented : (columns : List QueryColumn) →
    QueryColumn.drafts (QueryColumn.uncommentedAll columns) =
      (QueryColumn.drafts columns).map Draft.uncommented
  | [] => by simp [QueryColumn.uncommentedAll, QueryColumn.drafts]
  | { select, aliasName } :: rest => by
    simp [QueryColumn.uncommentedAll, QueryColumn.drafts,
      Layer.draft_uncommented select (Select.layer_uncommented select)
        (Select.joinedLayers_uncommented select),
      QueryColumn.drafts_uncommented rest]

theorem Select.layer_uncommented : (select : Select) →
    select.uncommented.layer = select.layer.uncommented
  | { link, queryColumns, filter, having, .. } => by
    have joined := fun table joinType =>
      Layer.joinDraft_uncommented table joinType link.steady_draft
    simp [Select.uncommented, Select.layer, Layer.uncommented,
      QueryColumn.drafts_uncommented queryColumns, Condition.draft_uncommented link,
      Condition.connected_uncommented filter, Condition.connected_uncommented having, joined,
      Function.comp_def]
    rfl

theorem Select.joinedLayers_uncommented : (select : Select) →
    select.uncommented.joinedLayers = select.joinedLayers.map Layer.uncommented
  | { joins, .. } => by
    simp [Select.uncommented, Select.joinedLayers, Select.layersOf_uncommented joins]

theorem Select.layersOf_uncommented : (selects : List Select) →
    Select.layersOf (Select.uncommentedAll selects) =
      (Select.layersOf selects).map Layer.uncommented
  | [] => rfl
  | select :: rest => by
    simp [Select.uncommentedAll, Select.layersOf, Select.layer_uncommented select,
      Select.joinedLayers_uncommented select, Select.layersOf_uncommented rest]

end

theorem Select.draft_uncommented (select : Select) :
    select.uncommented.draft = select.draft.uncommented :=
  Layer.draft_uncommented select (layer_uncommented select) (joinedLayers_uncommented select)

/-! ### Statements -/

namespace Draft

theorem restriction_uncommented (condition : Option Condition) :
    restriction (Condition.uncommented? condition) = (restriction condition).uncommented := by
  cases condition with
  | none => rfl
  | some condition =>
    simp [Condition.uncommented?, restriction, Condition.draft_uncommented,
      condition.steady_draft.uncommented_ledBy]

theorem members_uncommented (kind : Kind) (selects : List Select) :
    Draft.members kind (Select.uncommentedAll selects) =
      (Draft.members kind selects).uncommented := by
  have all : Select.uncommentedAll selects = selects.map Select.uncommented := by
    induction selects with
    | nil => rfl
    | cons select rest ih => rw [Select.uncommentedAll, ih, List.map_cons]
  unfold Draft.members
  cases selects with
  | nil => rfl
  | cons first rest => simp [all, Function.comp_def, Select.draft_uncommented]

end Draft

theorem Statement.draft_uncommented (statement : Statement) :
    statement.uncommented.draft = statement.draft.uncommented := by
  cases statement with
  | select statement => exact statement.draft_uncommented
  | insert statement =>
    simp only [uncommented, draft, Insert.draft, Draft.uncommented_under, Draft.under_none]
    split
    · rfl
    · apply Draft.withTable_uncommented
      simp [Insert.columns, Function.comp_def]
  | update statement =>
    simp only [uncommented, draft, Update.draft, Draft.uncommented_under, Draft.under_none]
    split
    · rfl
    · apply Draft.withTable_uncommented
      simp [Draft.restriction_uncommented, Function.comp_def]
  | delete statement =>
    simp only [uncommented, draft, Delete.draft, Draft.uncommented_under, Draft.under_none]
    apply Draft.withTable_uncommented
    simp [Draft.restriction_uncommented]
  | combination statement =>
    simp only [uncommented, draft, Combination.draft, Draft.uncommented_under, Draft.under_none,
      Draft.members_uncommented]
  | difference statement =>
    simp only [uncommented, draft, Difference.draft, Draft.uncommented_under, Draft.under_none,
      ← Draft.members_uncommented, Difference.members, Select.uncommentedAll]

end BoundSql
