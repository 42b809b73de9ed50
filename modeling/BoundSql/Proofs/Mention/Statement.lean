import BoundSql.Proofs.Draft.Statements
import BoundSql.Proofs.Mention.Clause
/-!
# The mentions of statements

The draft of a statement shows what the statement mentions.  What one SELECT
contributes to the text shows its share of the mentions.
-/

namespace BoundSql

/-! ### Flattening -/

mutual

theorem Select.joinedShares_eq : (select : Select) →
    select.joinedShares = select.allJoins.map Select.share
  | { joins, .. } => by simp [joinedShares, allJoins, sharesOf_eq joins]

theorem Select.sharesOf_eq : (selects : List Select) →
    sharesOf selects = (withAllJoins selects).map Select.share
  | [] => rfl
  | select :: rest => by
    simp [sharesOf, withAllJoins, joinedShares_eq select, sharesOf_eq rest]

end

/-! ### The parts of a SELECT -/

/-- An empty name that stands alone cannot be seen. -/
theorem Draft.not_sturdy_unnamed : ¬ Sturdy { pieces := [.name ""] } := by
  simp [Sturdy, Visible, isSilent, Piece.isSilent, Piece.isSolid]

namespace Layer

/-- The drafts of a layer show a share of the mentions. -/
structure Shows (layer : Layer) (share : Share) : Prop where
  queryColumns : Draft.ShowEach layer.queryColumns share.queryColumns
  join : layer.join.Shows share.join
  filter : Draft.ShowEach (layer.filter.toList.map Prod.snd) share.filter
  having : Draft.ShowEach (layer.having.toList.map Prod.snd) share.having

theorem shows_joinDraft {table : Option Table} {joinType : Option JoinType} {link : Draft}
    {mentions : List Mention} (shows : link.Shows mentions) :
    (joinDraft table joinType link).Shows (table.toList.map .table ++ mentions) := by
  cases table with
  | none => exact Draft.shows_fail _ _
  | some table =>
    have firm : isFirm ((joinType.getD .plain).keyword ++ " ") := by
      cases joinType.getD .plain <;> decide
    unfold joinDraft
    apply Draft.Shows.withTable
    exact ((Draft.shows_table table).led firm).append (shows.ledBy (by decide))

variable {select : Select}

theorem shows_returned (shows : ∀ one ∈ select.flattened, one.layer.Shows one.share) :
    (returned (select.flattened.map Select.layer)).Shows
      ((select.allColumns.toOption.getD []).flatMap Column.mentions ++
        (select.flattened.map Select.share).flatMap Share.queryColumns ++
        select.allValueColumns.flatMap ValueColumn.mentions ++
        select.allFunctionColumns.flatMap FunctionColumn.mentions) := by
  unfold returned
  rw [mapM_columns, Select.allColumns_eq]
  cases select.flattened.mapM Select.ownColumns with
  | error error => exact Draft.shows_fail _ _
  | ok listed =>
    have enumerated : (do return (← Except.ok listed).flatten : Except Error (List Column)) =
        .ok listed.flatten := rfl
    simp only [enumerated, Except.toOption, Option.map_some, Option.getD_some, ← List.map_flatten,
      flatMap_valueColumns, flatMap_functionColumns]
    simp only [List.flatMap_map]
    have columns := Draft.ShowEach.map fun column (_ : column ∈ listed.flatten) =>
      column.shows_selected
    have queries := Draft.ShowEach.flatMap fun one member => (shows one member).queryColumns
    have values := Draft.ShowEach.map fun column (_ : column ∈ select.allValueColumns) =>
      column.shows_draft
    have functions := Draft.ShowEach.map fun column (_ : column ∈ select.allFunctionColumns) =>
      column.shows_draft
    apply (((columns.append queries).append values).append functions).columnList
    -- Only a column that is enumerated can be an empty name alone.
    simp only [List.mem_append, List.mem_map, List.mem_flatMap]
    rintro (((⟨column, member, blank⟩ | ⟨one, _, member⟩) | ⟨column, _, blank⟩) |
      ⟨column, _, blank⟩)
    · exact ⟨column, .inl (.inl (.inl ⟨column, member, by simp [Column.mentions]⟩)),
        Column.name_of_selected blank⟩
    · rw [Select.layer_eq] at member
      exact absurd (.inr (QueryColumn.visible_drafts _ _ member)) Draft.not_sturdy_unnamed
    · exact absurd (blank ▸ .inr (by simp [ValueColumn.draft, Draft.aliased]))
        Draft.not_sturdy_unnamed
    · exact absurd (blank ▸ column.sturdy_draft) Draft.not_sturdy_unnamed

theorem shows_selection (shows : ∀ one ∈ select.flattened, one.layer.Shows one.share) :
    (selection select (select.flattened.map Select.layer)).Shows
      (Share.selection select (select.flattened.map Select.share)) := by
  unfold selection Share.selection
  cases select.count with
  | none => exact shows_returned shows
  | some count => exact count.shows_draft.led (by decide)

/-- Conditions of the same place in several layers show what each of them shows. -/
theorem shows_conditions {place : Layer → Option (Conjunction × Draft)}
    {mentions : Share → List Mention} {selects : List Select}
    (shows : ∀ one ∈ selects,
      Draft.ShowEach ((place one.layer).toList.map Prod.snd) (mentions one.share)) :
    (Draft.allOf ((selects.map Select.layer).filterMap place)).Shows
      ((selects.map Select.share).flatMap mentions) := by
  apply Draft.ShowEach.allOf
  rw [List.filterMap_eq_flatMap_toList, List.map_flatMap, List.flatMap_map, List.flatMap_map]
  exact Draft.ShowEach.flatMap shows

theorem shows_listing {lead : String} (firm : isFirm lead) {drafts : List Draft}
    {mentions : List Mention} (each : Draft.ShowEach drafts mentions) :
    (if drafts.isEmpty then {} else Draft.ofText lead ++ .join ", " drafts).Shows mentions := by
  have listed := each.join (by decide : isFirm ", ")
  split
  · rename_i empty
    rwa [List.isEmpty_iff.mp empty] at listed
  · exact listed.led firm

theorem shows_joins {joins : List Select} (shows : ∀ one ∈ joins, one.layer.Shows one.share) :
    (Draft.sequence ((joins.map Select.layer).map fun layer => .ofText " " ++ layer.join)).Shows
      ((joins.map Select.share).flatMap Share.join) := by
  rw [List.map_map, List.flatMap_map]
  exact (Draft.ShowEach.map fun join member =>
    (shows join member).join.led (by decide)).sequence

theorem shows_compose (shows : ∀ one ∈ select.flattened, one.layer.Shows one.share) :
    (compose select select.layer (select.allJoins.map Select.layer)).Shows
      (Share.compose select select.share (select.allJoins.map Select.share)) := by
  have layers : select.layer :: select.allJoins.map Select.layer =
      select.flattened.map Select.layer := rfl
  have shares : select.share :: select.allJoins.map Select.share =
      select.flattened.map Select.share := rfl
  unfold compose Share.compose
  cases select.table with
  | none => exact Draft.shows_fail _ _
  | some table =>
    have selected := shows_selection shows
    have joins := shows_joins fun join member => shows join (.tail _ member)
    have filters := shows_conditions fun one member => (shows one member).filter
    have havings := shows_conditions fun one member => (shows one member).having
    have groups := shows_listing (by decide : isFirm " GROUP BY ") <|
      Draft.ShowEach.mapOne fun column (_ : column ∈ select.groupBy) => column.shows_reference
    have orders := shows_listing (by decide : isFirm " ORDER BY ") <|
      Draft.ShowEach.mapOne fun entry (_ : entry ∈ select.allOrderBy) => entry.shows_draft
    have keyword : isFirm (if select.distinct then "SELECT DISTINCT" else "SELECT") := by
      cases select.distinct <;> decide
    rw [List.isEmpty_map] at groups
    apply Draft.Shows.withTable
    dsimp only
    rw [layers, shares, flatMap_orderBy]
    have source := ((selected.led keyword).closed (by decide : isFirm " FROM ")).append
      (Draft.shows_table table)
    have filtered := (source.append joins).append (filters.ledBy (by decide : isFirm " WHERE "))
    have grouped := (filtered.append groups).append (havings.ledBy (by decide : isFirm " HAVING "))
    simpa using (grouped.append orders).append select.window.shows_draft

theorem shows_draft (own : select.layer.Shows select.share)
    (joined : ∀ one ∈ select.allJoins, one.layer.Shows one.share) :
    (draft select select.layer select.joinedLayers).Shows
      (Share.mentions select select.share select.joinedShares) := by
  unfold draft Share.mentions
  rw [Select.joinedLayers_eq, Select.joinedShares_eq]
  apply Draft.Shows.under
  split
  · exact own.join
  · exact shows_compose (List.forall_mem_cons.mpr ⟨own, joined⟩)

end Layer

mutual

theorem Operand.shows_draft : (operand : Operand) → operand.draft.Shows operand.mentions
  | .value bound => by
    rw [Operand.draft, Operand.mentions]
    exact Draft.shows_ofValue bound
  | .column column => by
    rw [Operand.draft, Operand.mentions]
    exact column.shows_reference
  | .select select => by
    rw [Operand.draft, Operand.mentions]
    exact (Layer.shows_draft (Select.shows_layer select)
      (Select.shows_allJoins select)).parenthesized

theorem ComparisonClause.showEach_drafts : (clauses : List ComparisonClause) →
    Draft.ShowEach (ComparisonClause.drafts clauses) (ComparisonClause.mentions clauses)
  | [] => by
    rw [ComparisonClause.drafts, ComparisonClause.mentions]
    exact .nil
  | { subject, relation, target } :: rest => by
    rw [ComparisonClause.drafts, ComparisonClause.mentions]
    exact .cons ((Operand.shows_draft target).related subject relation)
      (ComparisonClause.showEach_drafts rest)

theorem ExistenceClause.showEach_drafts : (clauses : List ExistenceClause) →
    Draft.ShowEach (ExistenceClause.drafts clauses) (ExistenceClause.mentions clauses)
  | [] => by
    rw [ExistenceClause.drafts, ExistenceClause.mentions]
    exact .nil
  | { select, negated } :: rest => by
    have shows := Layer.shows_draft (Select.shows_layer select) (Select.shows_allJoins select)
    rw [ExistenceClause.drafts, ExistenceClause.mentions]
    exact .cons (shows.exists.negatedIf negated) (ExistenceClause.showEach_drafts rest)

theorem Condition.shows_draft : (condition : Condition) →
    condition.draft.Shows condition.mentions
  | { conjunction, comparisons, ranges, memberships, nullChecks, bits, searches,
      existences, literals, subconditions, .. } => by
    have firm : isFirm (" " ++ conjunction.keyword ++ " ") := by cases conjunction <;> decide
    have searched := Draft.ShowEach.map fun clause (_ : clause ∈ searches) => clause.shows_draft
    have listed := MembershipClause.showEach_drafts memberships
    have ranged := Draft.ShowEach.mapOne fun clause (_ : clause ∈ ranges) => clause.shows_draft
    have compared := ComparisonClause.showEach_drafts comparisons
    have checked := Draft.ShowEach.mapOne fun clause (_ : clause ∈ nullChecks) =>
      clause.shows_draft
    have tested := Draft.ShowEach.mapOne fun clause (_ : clause ∈ bits) => clause.shows_draft
    have existing := ExistenceClause.showEach_drafts existences
    have spelled := Draft.ShowEach.mapOne fun literal (_ : literal ∈ literals) =>
      Draft.shows_verbatim literal
    have grouped := Condition.showEach_subdrafts subconditions
    rw [Condition.draft, Condition.mentions]
    exact ((((((((searched.append listed).append ranged).append compared).append checked).append
      tested).append existing).append spelled).append grouped).join firm

theorem Condition.showEach_subdrafts : (conditions : List Condition) →
    Draft.ShowEach (Condition.subdrafts conditions) (Condition.mentionsOf conditions)
  | [] => by
    rw [Condition.subdrafts, Condition.mentionsOf]
    exact .nil
  | condition :: rest => by
    rw [Condition.subdrafts, Condition.mentionsOf]
    exact (Draft.ShowEach.grouped (Condition.shows_draft condition)).append
      (Condition.showEach_subdrafts rest)

theorem Condition.showEach_connected : (condition : Option Condition) →
    Draft.ShowEach ((Condition.connected condition).toList.map Prod.snd)
      (Condition.mentions? condition)
  | none => by
    rw [Condition.connected, Condition.mentions?]
    exact .nil
  | some condition => by
    rw [Condition.connected, Condition.mentions?]
    exact .single (Condition.shows_draft condition)

theorem QueryColumn.showEach_drafts : (columns : List QueryColumn) →
    Draft.ShowEach (QueryColumn.drafts columns) (QueryColumn.mentions columns)
  | [] => by
    rw [QueryColumn.drafts, QueryColumn.mentions]
    exact .nil
  | { select, aliasName } :: rest => by
    have shows := Layer.shows_draft (Select.shows_layer select) (Select.shows_allJoins select)
    rw [QueryColumn.drafts, QueryColumn.mentions]
    exact .cons (shows.parenthesized.aliased aliasName) (QueryColumn.showEach_drafts rest)

theorem Select.shows_layer : (select : Select) → select.layer.Shows select.share
  | { link, queryColumns, filter, having, .. } => by
    rw [Select.layer, Select.share]
    exact
      { queryColumns := QueryColumn.showEach_drafts queryColumns
        join := Layer.shows_joinDraft (Condition.shows_draft link)
        filter := Condition.showEach_connected filter
        having := Condition.showEach_connected having }

theorem Select.shows_allJoins : (select : Select) →
    ∀ join ∈ select.allJoins, join.layer.Shows join.share
  | { joins, .. } => by
    rw [Select.allJoins]
    exact Select.shows_withAllJoins joins

theorem Select.shows_withAllJoins : (selects : List Select) →
    ∀ one ∈ Select.withAllJoins selects, one.layer.Shows one.share
  | [] => by simp [Select.withAllJoins]
  | select :: rest => by
    simp only [Select.withAllJoins, List.forall_mem_cons, List.forall_mem_append]
    exact ⟨Select.shows_layer select, Select.shows_allJoins select,
      Select.shows_withAllJoins rest⟩

end

theorem Select.shows_draft (select : Select) : select.draft.Shows select.mentions :=
  Layer.shows_draft (shows_layer select) (shows_allJoins select)

/-! ### Statements -/

theorem Insert.shows_draft (insert : Insert) :
    insert.draft.Shows (Statement.insert insert).mentions := by
  unfold draft Statement.mentions
  simp only [List.append_assoc]
  apply Draft.Shows.under
  split
  · exact Draft.shows_fail _ _
  · apply Draft.Shows.withTable
    have target := (Draft.shows_table insert.table).led (by decide : isFirm "INSERT INTO ")
    have named := (target.closed (by decide : isFirm " (")).append
      (Draft.shows_references insert.columns)
    have listed := (named.closed (by decide : isFirm ") VALUES (")).append
      (Draft.shows_values (insert.assignments.map Assignment.value))
    simpa [columns, Function.comp_def] using listed.closed (by decide : isFirm ")")

theorem Draft.shows_restriction (condition : Option Condition) :
    (Draft.restriction condition).Shows (Condition.mentions? condition) := by
  cases condition with
  | none =>
    rw [Condition.mentions?]
    exact shows_empty
  | some condition =>
    rw [Condition.mentions?]
    exact condition.shows_draft.ledBy (by decide)

theorem Update.shows_draft (update : Update) :
    update.draft.Shows (Statement.update update).mentions := by
  unfold draft Statement.mentions
  simp only [List.append_assoc]
  apply Draft.Shows.under
  split
  · exact Draft.shows_fail _ _
  · apply Draft.Shows.withTable
    have target := (Draft.shows_table update.table).led (by decide : isFirm "UPDATE ")
    have assigned := (Draft.ShowEach.mapOne fun one (_ : one ∈ update.assignments) =>
      one.shows_draft).join (by decide : isFirm ", ")
    have written := (target.closed (by decide : isFirm " SET ")).append assigned
    simpa using (written.append (Draft.shows_restriction update.filter)).append
      (Draft.shows_limit update.limit)

theorem Delete.shows_draft (delete : Delete) :
    delete.draft.Shows (Statement.delete delete).mentions := by
  unfold draft Statement.mentions
  simp only [List.append_assoc]
  apply Draft.Shows.under
  apply Draft.Shows.withTable
  have target := (Draft.shows_table delete.table).led (by decide : isFirm "DELETE FROM ")
  simpa using (target.append (Draft.shows_restriction delete.filter)).append
    (Draft.shows_limit delete.limit)

theorem Draft.shows_members (kind : Kind) (members : List Select) :
    (Draft.members kind members).Shows (members.flatMap Select.mentions) := by
  have firm : isFirm ("\n" ++ kind.name ++ "\n") := by cases kind <;> decide
  unfold Draft.members
  split
  · exact shows_fail _ _
  · exact (ShowEach.map fun select _ => select.shows_draft).join firm

/-- The draft of a statement shows what the statement mentions. -/
theorem Statement.shows_draft (statement : Statement) :
    statement.draft.Shows statement.mentions := by
  cases statement with
  | select statement => exact statement.shows_draft
  | insert statement => exact statement.shows_draft
  | update statement => exact statement.shows_draft
  | delete statement => exact statement.shows_draft
  | combination statement =>
    exact (Draft.shows_members _ statement.members).under statement.comment
  | difference statement =>
    have shows := (Draft.shows_members .minus statement.members).under statement.comment
    simpa [Statement.mentions, Statement.draft, Difference.draft, Difference.members] using shows

end BoundSql
