import BoundSql.Compile
import BoundSql.Draft.Statement
import BoundSql.Proofs.Draft.Clauses
import BoundSql.Proofs.Flattening
/-!
# Writing the drafts of statements

Writing a statement is writing its draft: the draft has the values in the places
where the writing binds them, and lacks what ends the writing.
-/

namespace BoundSql

/-- What a layer contributes to the text when its drafts are written. -/
def Contribution.ofLayer (dialect : Dialect) (layer : Layer) : Contribution where
  queryColumns := layer.queryColumns.map (Draft.write dialect)
  join := layer.join.write dialect
  filter := layer.filter.map fun (conjunction, draft) => (conjunction, draft.write dialect)
  having := layer.having.map fun (conjunction, draft) => (conjunction, draft.write dialect)

variable (dialect : Dialect)

/-! ### What can be seen of conditions -/

theorem MembershipClause.sturdy_draft (clause : MembershipClause) : clause.draft.Sturdy := by
  unfold draft
  split
  · split
    · exact .inl rfl
    · exact .inr (by simp)
  · exact .inr (by simp)

theorem MembershipClause.visible_draft {clause : MembershipClause} (shown : clause.isVoid = false) :
    clause.draft.Visible := by
  unfold draft
  split
  · next empty =>
    have positive : clause.negated = false := by simpa [isVoid, empty] using shown
    simp [positive]
  · simp

theorem ComparisonClause.visible_drafts : (clauses : List ComparisonClause) →
    ∀ draft ∈ drafts clauses, draft.Visible
  | [] => by simp [drafts]
  | { subject, relation, target } :: rest => by
    simpa [drafts, Draft.comparison] using visible_drafts rest

theorem ExistenceClause.visible_drafts : (clauses : List ExistenceClause) →
    ∀ draft ∈ drafts clauses, draft.Visible
  | [] => by simp [drafts]
  | { select, negated } :: rest => by
    simpa [drafts] using visible_drafts rest

theorem Condition.visible_subdrafts : (conditions : List Condition) →
    ∀ draft ∈ subdrafts conditions, draft.Visible
  | [] => by simp [subdrafts]
  | condition :: rest => by
    have first : ∀ draft ∈ condition.draft.grouped, draft.Visible := by
      unfold Draft.grouped
      split <;> simp
    simp only [subdrafts, List.forall_mem_append]
    exact ⟨first, visible_subdrafts rest⟩

theorem Condition.sturdy_draft (condition : Condition) : condition.draft.Sturdy := by
  obtain ⟨table, conjunction, comparisons, ranges, memberships, nullChecks, bits, searches,
    existences, literals, subconditions⟩ := condition
  rw [draft]
  apply Draft.sturdy_join (by simp)
  simp only [List.forall_mem_append, List.forall_mem_map]
  refine ⟨⟨⟨⟨⟨⟨⟨⟨?_, ?_⟩, ?_⟩, ?_⟩, ?_⟩, ?_⟩, ?_⟩, ?_⟩, ?_⟩
  · exact fun clause _ => .inr (by simp [SearchClause.draft])
  · intro draft member
    obtain ⟨clause, _, rfl⟩ := List.mem_map.mp member
    exact clause.sturdy_draft
  · exact fun clause _ => .inr (by simp [RangeClause.draft])
  · exact fun draft member => .inr (ComparisonClause.visible_drafts comparisons draft member)
  · exact fun clause _ => .inr (by simp [NullClause.draft])
  · exact fun clause _ => .inr (by simp [BitClause.draft])
  · exact fun draft member => .inr (ExistenceClause.visible_drafts existences draft member)
  · exact fun literal _ => Draft.sturdy_ofText literal
  · exact fun draft member => .inr (Condition.visible_subdrafts subconditions draft member)

theorem Condition.sturdy_connected (conditions : List (Option Condition)) :
    ∀ condition ∈ conditions.filterMap connected, condition.2.Sturdy := by
  intro condition member
  obtain ⟨source, _, found⟩ := List.mem_filterMap.mp member
  cases source with
  | none => simp [connected] at found
  | some source =>
    simp only [connected, Option.some.injEq] at found
    subst found
    exact source.sturdy_draft

/-! ### Flattening -/

mutual

theorem Select.joinedLayers_eq : (select : Select) →
    select.joinedLayers = select.allJoins.map Select.layer
  | { joins, .. } => by simp [joinedLayers, allJoins, layersOf_eq joins]

theorem Select.layersOf_eq : (selects : List Select) →
    layersOf selects = (withAllJoins selects).map Select.layer
  | [] => rfl
  | select :: rest => by
    simp [layersOf, withAllJoins, joinedLayers_eq select, layersOf_eq rest]

end

theorem Layer.write_joinDraft (table : Option Table) (joinType : Option JoinType) {link : Draft}
    (sturdy : link.Sturdy) :
    (joinDraft table joinType link).write dialect =
      Contribution.joinText dialect table joinType (link.write dialect) := by
  cases table with
  | none => rfl
  | some table =>
    apply Draft.write_withTable
    intro source written
    simp [written, Draft.write_ledBy dialect _ sturdy, String.append_assoc, -bind_pure_comp]

/-! ### The parts of a SELECT -/

theorem Piece.ofIdentifier_isSolid {identifier : String} (nonempty : identifier ≠ "") :
    (ofIdentifier identifier).isSolid := by
  unfold ofIdentifier
  split <;> simp [isSolid, nonempty]

/-- All that there is of a column that cannot be seen is its empty name. -/
theorem Column.sturdy_selected (column : Column) :
    column.selected.Sturdy ∨ column.selected = { pieces := [.name ""] } := by
  obtain ⟨name, table, aliasName⟩ := column
  cases table with
  | some table =>
    exact .inl (.inr (.inr ⟨.text ".", by simp [selected, pieces], rfl⟩))
  | none =>
    by_cases nameless : name = ""
    · subst nameless
      cases aliasName with
      | none =>
        exact .inr (by simp [selected, pieces, Piece.ofIdentifier, Piece.ofAlias, wildcard,
          isExpression])
      | some aliasName =>
        exact .inl (.inr (.inr ⟨.text " AS ", by
          simp [selected, Piece.ofAlias, isWildcard, wildcard], rfl⟩))
    · exact .inl (.inr (.inr ⟨_, by simp [selected, pieces],
        Piece.ofIdentifier_isSolid nameless⟩))

theorem QueryColumn.visible_drafts : (columns : List QueryColumn) →
    ∀ draft ∈ drafts columns, draft.Visible
  | [] => by simp [drafts]
  | { select, aliasName } :: rest => by
    simpa [drafts, Draft.aliased, Draft.parenthesized] using visible_drafts rest

theorem FunctionColumn.sturdy_draft (column : FunctionColumn) : column.draft.Sturdy := by
  unfold draft Draft.aliased
  cases nonempty? column.aliasName with
  | none =>
    split
    · exact (Draft.append_empty _).symm ▸ Draft.sturdy_ofText column.function
    · exact .inr (by simp)
  | some aliasName =>
    refine .inr ((Draft.visible_append _ _).mpr (.inr ?_))
    exact .inr ⟨.text " AS ", by simp [Piece.ofAlias], rfl⟩

theorem Layer.mapM_columns (selects : List Select) :
    (selects.map Select.layer).mapM columns =
      (selects.mapM Select.ownColumns).toOption.map (List.map (List.map Column.selected)) := by
  induction selects with
  | nil => rfl
  | cons select rest ih =>
    have own : select.layer.columns =
        select.ownColumns.toOption.map (List.map Column.selected) := by
      obtain ⟨table, comment, joinType, link, columns, queryColumns, valueColumns,
        functionColumns, count, distinct, joins, filter, having, groupBy, orderBy,
        window⟩ := select
      rw [Select.layer]
    rw [List.map_cons, List.mapM_cons, List.mapM_cons, ih, own]
    cases select.ownColumns with
    | error error => rfl
    | ok columns => cases rest.mapM Select.ownColumns <;> rfl

namespace Layer

variable (select : Select)

/-! The layers of a SELECT hold what the SELECT lists together. -/

theorem flatMap_valueColumns :
    (select.flattened.map Select.layer).flatMap valueColumns =
      select.allValueColumns.map ValueColumn.draft := by
  simp [Select.allValueColumns, Select.gather_eq, List.map_flatMap, List.flatMap_map,
    Select.layer_eq]

theorem flatMap_functionColumns :
    (select.flattened.map Select.layer).flatMap functionColumns =
      select.allFunctionColumns.map FunctionColumn.draft := by
  simp [Select.allFunctionColumns, Select.gather_eq, List.map_flatMap, List.flatMap_map,
    Select.layer_eq]

theorem flatMap_orderBy :
    (select.flattened.map Select.layer).flatMap orderBy =
      select.allOrderBy.map OrderBy.draft := by
  simp [Select.allOrderBy, Select.gather_eq, List.map_flatMap, List.flatMap_map,
    Select.layer_eq]

/-- Conditions of the same place in several layers are written together. -/
theorem write_allOf (place : Layer → Option (Conjunction × Draft))
    (placed : Contribution → Option (Conjunction × Binding String))
    (condition : Select → Option Condition)
    (sameDraft : ∀ one, place one.layer = Condition.connected (condition one))
    (sameText : ∀ layer : Layer, placed (.ofLayer dialect layer) =
      (place layer).map fun (conjunction, draft) => (conjunction, draft.write dialect))
    (lead : String) (selects : List Select) :
    (Draft.ledBy lead (.allOf ((selects.map Select.layer).filterMap place))).write dialect = do
      let text ← Binding.allOf
        ((selects.map fun one => Contribution.ofLayer dialect one.layer).filterMap placed)
      return Binding.ledBy lead text := by
  have sturdy : ∀ condition ∈ (selects.map Select.layer).filterMap place,
      condition.2.Sturdy := by
    simpa [List.filterMap_map, sameDraft, Function.comp_def] using
      Condition.sturdy_connected (selects.map condition)
  have texts : ((selects.map Select.layer).filterMap place).map
        (fun (conjunction, draft) => (conjunction, draft.write dialect)) =
      (selects.map fun one => Contribution.ofLayer dialect one.layer).filterMap placed := by
    simp [List.map_filterMap, List.filterMap_map, sameText]
  rw [Draft.write_ledBy dialect lead (Draft.sturdy_allOf sturdy), Draft.write_allOf dialect sturdy,
    texts]

theorem write_returned :
    (returned (select.flattened.map Select.layer)).write dialect = do
      let columns ← Contribution.columns dialect select
        (select.flattened.map fun one => .ofLayer dialect one.layer)
      return Binding.ledBy " " columns := by
  unfold returned Contribution.columns
  rw [mapM_columns, Select.allColumns_eq]
  cases enumerated : select.flattened.mapM Select.ownColumns with
  | error error =>
    obtain rfl := Select.error_of_mapM_ownColumns enumerated
    rfl
  | ok columns =>
    have sturdy : ∀ column ∈ (columns.map (List.map Column.selected)).flatten ++
        (select.flattened.map Select.layer).flatMap queryColumns ++
        select.allValueColumns.map ValueColumn.draft ++
        select.allFunctionColumns.map FunctionColumn.draft,
        column.Sturdy ∨ column = { pieces := [.name ""] } := by
      simp only [← List.map_flatten, List.forall_mem_append, List.forall_mem_map,
        List.forall_mem_flatMap]
      refine ⟨⟨⟨?_, ?_⟩, ?_⟩, ?_⟩
      · exact fun column _ => column.sturdy_selected
      · intro one _ column member
        rw [Select.layer_eq] at member
        exact .inl (.inr (QueryColumn.visible_drafts _ column member))
      · exact fun column _ => .inl (.inr (by simp [ValueColumn.draft, Draft.aliased]))
      · exact fun column _ => .inl column.sturdy_draft
    have queries : (select.flattened.map fun one => Contribution.ofLayer dialect one.layer).flatMap
          Contribution.queryColumns =
        ((select.flattened.map Select.layer).flatMap queryColumns).map (Draft.write dialect) := by
      simp [List.map_flatMap, List.flatMap_map, Contribution.ofLayer]
    have enumerate : (MonadExcept.ofExcept (do return (← Except.ok columns).flatten) :
        Binding (List Column)) = pure columns.flatten := rfl
    simp only [flatMap_valueColumns, flatMap_functionColumns, Except.toOption, Option.map_some]
    rw [Draft.write_columnList dialect sturdy, enumerate, queries]
    simp [← List.map_flatten, Function.comp_def, -bind_pure_comp]

theorem write_selection :
    (selection select (select.flattened.map Select.layer)).write dialect = do
      let columns ← Contribution.selection dialect select
        (select.flattened.map fun one => .ofLayer dialect one.layer)
      return Binding.ledBy " " columns := by
  unfold selection Contribution.selection
  cases select.count with
  | none => exact write_returned dialect select
  | some count => simp [Binding.ledBy, Count.text]

theorem write_joins :
    (Draft.sequence ((select.allJoins.map Select.layer).map fun layer =>
        .ofText " " ++ layer.join)).write dialect = do
      let joins ← (select.allJoins.map fun one => Contribution.ofLayer dialect one.layer).mapM
        Contribution.join
      return String.join (joins.map fun join => " " ++ join) := by
  have spaced : ∀ draft : Draft, (Draft.ofText " " ++ draft).write dialect =
      (fun text => " " ++ text) <$> draft.write dialect := by
    simp
  simp only [Draft.write_sequence, List.mapM_map, Function.comp_def, spaced,
    Draft.mapM_map_result, bind_map_left, Contribution.ofLayer]

theorem write_compose :
    (compose select select.layer (select.allJoins.map Select.layer)).write dialect =
      Contribution.compose dialect select (.ofLayer dialect select.layer)
        (select.allJoins.map fun one => .ofLayer dialect one.layer) := by
  unfold compose Contribution.compose
  cases table : select.table with
  | none => rfl
  | some table =>
    apply Draft.write_withTable
    intro source written
    have layers : select.layer :: select.allJoins.map Select.layer =
        select.flattened.map Select.layer := rfl
    have parts : Contribution.ofLayer dialect select.layer ::
          (select.allJoins.map fun one => Contribution.ofLayer dialect one.layer) =
        select.flattened.map fun one => Contribution.ofLayer dialect one.layer := rfl
    have filters := write_allOf dialect filter Contribution.filter Select.filter
      (fun one => by rw [Select.layer_eq]) (fun _ => rfl) " WHERE " select.flattened
    have havings := write_allOf dialect having Contribution.having Select.having
      (fun one => by rw [Select.layer_eq]) (fun _ => rfl) " HAVING " select.flattened
    have groupBy := Draft.write_listing dialect " GROUP BY " (Column.write_reference dialect)
      select.groupBy
    have orderBy := Draft.write_listing dialect " ORDER BY " (OrderBy.write_draft dialect)
      select.allOrderBy
    have ordered : (select.allOrderBy.map OrderBy.draft).isEmpty = select.allOrderBy.isEmpty := by
      simp
    dsimp only
    rw [layers, parts, flatMap_orderBy, ordered]
    simp only [Draft.write_append, Draft.write_ofText, written, write_selection, write_joins,
      filters, groupBy, havings, orderBy, Window.write_draft, bind_assoc, pure_bind]

end Layer

theorem Layer.write_draft (select : Select) {own : Contribution} {joined : List Contribution}
    (sameOwn : Contribution.ofLayer dialect select.layer = own)
    (sameJoined : select.joinedLayers.map (Contribution.ofLayer dialect) = joined) :
    (draft select select.layer select.joinedLayers).write dialect =
      Contribution.text dialect select own joined := by
  subst sameOwn sameJoined
  unfold draft Contribution.text
  rw [Draft.write_under]
  split
  · rfl
  · rw [Select.joinedLayers_eq, write_compose, List.map_map]
    rfl

/-! ### Writing -/

mutual

theorem Operand.write_draft : (operand : Operand) →
    operand.draft.write dialect = operand.text dialect
  | .value bound => by simp [Operand.draft, Operand.text]
  | .column column => by simp [Operand.draft, Operand.text]
  | .select select => by
    simp [Operand.draft, Operand.text,
      Layer.write_draft dialect select (Select.ofLayer_layer select)
        (Select.ofLayer_joinedLayers select)]

theorem ComparisonClause.mapM_write_drafts : (clauses : List ComparisonClause) →
    (ComparisonClause.drafts clauses).mapM (Draft.write dialect) =
      ComparisonClause.texts dialect clauses
  | [] => by simp [ComparisonClause.drafts, ComparisonClause.texts]
  | { subject, relation, target } :: rest => by
    simp [ComparisonClause.drafts, ComparisonClause.texts, Draft.comparison,
      Operand.write_draft target, ComparisonClause.mapM_write_drafts rest, String.append_assoc,
      -bind_pure_comp]

theorem ExistenceClause.mapM_write_drafts : (clauses : List ExistenceClause) →
    (ExistenceClause.drafts clauses).mapM (Draft.write dialect) =
      ExistenceClause.texts dialect clauses
  | [] => by simp [ExistenceClause.drafts, ExistenceClause.texts]
  | { select, negated } :: rest => by
    simp [ExistenceClause.drafts, ExistenceClause.texts,
      Layer.write_draft dialect select (Select.ofLayer_layer select)
        (Select.ofLayer_joinedLayers select),
      ExistenceClause.mapM_write_drafts rest, String.append_assoc, -bind_pure_comp]

theorem Condition.write_draft : (condition : Condition) →
    condition.draft.write dialect = condition.text dialect
  | { conjunction, comparisons, ranges, memberships, nullChecks, bits, searches,
      existences, literals, subconditions, .. } => by
    simp only [Condition.draft, Draft.write_join, List.mapM_append, List.mapM_map]
    rw [Draft.mapM_write_ofText]
    simp [Condition.text, ComparisonClause.mapM_write_drafts comparisons,
      ExistenceClause.mapM_write_drafts existences, Condition.mapM_write_subdrafts subconditions,
      Function.comp_def, -bind_pure_comp]

theorem Condition.mapM_write_subdrafts : (conditions : List Condition) →
    (Condition.subdrafts conditions).mapM (Draft.write dialect) =
      Condition.groups dialect conditions
  | [] => by simp [Condition.subdrafts, Condition.groups]
  | condition :: rest => by
    have first := Draft.mapM_write_grouped dialect condition.sturdy_draft
    simp only [Condition.subdrafts, Condition.groups, List.mapM_append, first,
      Condition.write_draft condition, Condition.mapM_write_subdrafts rest, bind_assoc, pure_bind]
    have regroup : ∀ (text : String) (groups : List String),
        (if text.isEmpty then [] else ["(" ++ text ++ ")"]) ++ groups =
          if text.isEmpty then groups else ("(" ++ text ++ ")") :: groups := by
      intro text groups
      split <;> rfl
    simp only [regroup]

theorem Condition.map_connected : (condition : Option Condition) →
    (Condition.connected condition).map
        (fun (conjunction, draft) => (conjunction, draft.write dialect)) =
      Condition.connectedText dialect condition
  | none => rfl
  | some condition => by
    simp [Condition.connected, Condition.connectedText, Condition.write_draft condition]

theorem QueryColumn.map_write_drafts : (columns : List QueryColumn) →
    (QueryColumn.drafts columns).map (Draft.write dialect) = QueryColumn.texts dialect columns
  | [] => rfl
  | { select, aliasName } :: rest => by
    simp [QueryColumn.drafts, QueryColumn.texts,
      Layer.write_draft dialect select (Select.ofLayer_layer select)
        (Select.ofLayer_joinedLayers select),
      QueryColumn.map_write_drafts rest]

theorem Select.ofLayer_layer : (select : Select) →
    Contribution.ofLayer dialect select.layer = select.contribution dialect
  | { table, joinType, link, queryColumns, filter, having, .. } => by
    simp [Contribution.ofLayer, Select.layer, Select.contribution,
      QueryColumn.map_write_drafts queryColumns, Condition.map_connected filter,
      Condition.map_connected having, Condition.write_draft link,
      Layer.write_joinDraft dialect _ _ link.sturdy_draft]

theorem Select.ofLayer_joinedLayers : (select : Select) →
    select.joinedLayers.map (Contribution.ofLayer dialect) = select.joinedContributions dialect
  | { joins, .. } => by
    simp [Select.joinedLayers, Select.joinedContributions, Select.ofLayer_layersOf joins]

theorem Select.ofLayer_layersOf : (selects : List Select) →
    (Select.layersOf selects).map (Contribution.ofLayer dialect) =
      Select.contributionsOf dialect selects
  | [] => rfl
  | select :: rest => by
    simp [Select.layersOf, Select.contributionsOf, Select.ofLayer_layer select,
      Select.ofLayer_joinedLayers select, Select.ofLayer_layersOf rest]

end

theorem Select.write_draft (select : Select) : select.draft.write dialect = select.text dialect :=
  Layer.write_draft dialect select (ofLayer_layer dialect select)
    (ofLayer_joinedLayers dialect select)

/-! ### Statements -/

theorem Insert.write_draft (insert : Insert) :
    insert.draft.write dialect = insert.text dialect := by
  unfold draft text
  rw [Draft.write_under]
  congr 1
  split
  · rfl
  · apply Draft.write_withTable
    intro target written
    simp [written, Function.comp_def, String.append_assoc, -bind_pure_comp]

theorem Draft.write_restriction (condition : Option Condition) :
    (Draft.restriction condition).write dialect = Binding.restriction dialect condition := by
  cases condition with
  | none => rfl
  | some condition =>
    simp only [Draft.restriction, Binding.restriction, write_ledBy dialect _ condition.sturdy_draft,
      Condition.write_draft]

theorem Update.write_draft (update : Update) :
    update.draft.write dialect = update.text dialect := by
  unfold draft text
  rw [Draft.write_under]
  congr 1
  split
  · rfl
  · apply Draft.write_withTable
    intro target written
    simp [written, Draft.write_restriction, Function.comp_def, String.append_assoc,
      -bind_pure_comp]

theorem Delete.write_draft (delete : Delete) :
    delete.draft.write dialect = delete.text dialect := by
  unfold draft text
  rw [Draft.write_under]
  congr 1
  apply Draft.write_withTable
  intro target written
  simp [written, Draft.write_restriction, String.append_assoc, -bind_pure_comp]

/-- There is a text for each member. -/
theorem Draft.write_members (kind : Kind) (members : List Select) :
    (Draft.members kind members).write dialect = Binding.members dialect kind members := by
  cases members with
  | nil => rfl
  | cons first rest =>
    simp [Draft.members, Binding.members, Function.comp_def, Select.write_draft, -bind_pure_comp]

theorem Statement.write_draft (statement : Statement) :
    statement.draft.write dialect = statement.text dialect := by
  cases statement with
  | select statement => exact statement.write_draft dialect
  | insert statement => exact statement.write_draft dialect
  | update statement => exact statement.write_draft dialect
  | delete statement => exact statement.write_draft dialect
  | combination statement =>
    simp only [Statement.draft, Statement.text, Combination.draft, Combination.text,
      Draft.write_under, Draft.write_members]
  | difference statement =>
    simp only [Statement.draft, Statement.text, Difference.draft, Difference.text,
      Draft.write_under, Draft.write_members]

/-! ### Compiling -/

/-- The parameters after the writing hold the values of the draft, as far as it
goes. -/
theorem Statement.outcome_text (statement : Statement) (parameters : Parameters) :
    (statement.text dialect).outcome parameters =
      (parameters.bindAll statement.draft.values,
        match statement.draft.failure with
        | none => .ok (Draft.render dialect parameters.next statement.draft.pieces)
        | some lack => .error (.missingContext lack)) := by
  rw [← write_draft]
  cases failure : statement.draft.failure <;>
    simp [Binding.outcome, Draft.write, EStateM.run, failure]

/-- Compiling renders the draft from the first placeholder on, unless something is
lacking. -/
theorem Statement.compile_eq (statement : Statement) :
    statement.compile dialect =
      match statement.draft.failure with
      | none => .ok
          { sql := Draft.render dialect 1 statement.draft.pieces
            parameters := ({} : Parameters).bindAll statement.draft.values }
      | some lack => .error (.missingContext lack) := by
  unfold compile compileWith
  rw [outcome_text]
  cases statement.draft.failure <;> rfl

end BoundSql
