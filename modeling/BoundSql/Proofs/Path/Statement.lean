import BoundSql.Draft.Statement
import BoundSql.Proofs.Draft.Piecewise
import BoundSql.Proofs.Path.Clause
/-!
# The path of statements

The draft of a statement is level if the texts supplied for the statement are
allowed.
-/

namespace BoundSql

variable {allowed : Piece → Prop}

/-- Whether the texts of each part of a SELECT are allowed. -/
structure Select.Allows (allowed : Piece → Prop) (select : Select) : Prop where
  table : Supplied.Within allowed (select.table.toList.flatMap Table.supplied)
  comment : Supplied.Within allowed (select.comment.toList.map .comment)
  link : Supplied.Within allowed select.link.supplied
  columns : Supplied.Within allowed ((select.columns.getD []).flatMap Column.supplied)
  queryColumns : Supplied.Within allowed (QueryColumn.supplied select.queryColumns)
  valueColumns : Supplied.Within allowed
    (select.valueColumns.map fun column => .identifier column.aliasName)
  functionColumns : Supplied.Within allowed
    (select.functionColumns.flatMap FunctionColumn.supplied)
  count : Supplied.Within allowed (select.count.toList.flatMap Count.supplied)
  joins : Supplied.Within allowed (Select.suppliedAll select.joins)
  filter : Supplied.Within allowed (Condition.supplied? select.filter)
  having : Supplied.Within allowed (Condition.supplied? select.having)
  groupBy : Supplied.Within allowed (select.groupBy.flatMap Column.referred)
  orderBy : Supplied.Within allowed (select.orderBy.flatMap fun entry => entry.column.referred)

theorem Select.allows {select : Select} (within : Supplied.Within allowed select.supplied) :
    select.Allows allowed := by
  simp only [supplied_eq, Supplied.within_append] at within
  obtain ⟨⟨⟨⟨⟨⟨⟨⟨⟨⟨⟨⟨table, comment⟩, link⟩, columns⟩, queryColumns⟩, valueColumns⟩,
    functionColumns⟩, count⟩, joins⟩, filter⟩, having⟩, groupBy⟩, orderBy⟩ := within
  exact { table, comment, link, columns, queryColumns, valueColumns, functionColumns, count,
          joins, filter, having, groupBy, orderBy }

/-- Whether all drafts of a layer are level. -/
structure Layer.Level (allowed : Piece → Prop) (layer : Layer) : Prop where
  columns : ∀ columns ∈ layer.columns, ∀ column ∈ columns, column.Level allowed true
  queryColumns : ∀ column ∈ layer.queryColumns, column.Level allowed true
  valueColumns : ∀ column ∈ layer.valueColumns, column.Level allowed true
  functionColumns : ∀ column ∈ layer.functionColumns, column.Level allowed true
  join : layer.join.Level allowed true
  filter : ∀ condition ∈ layer.filter, condition.2.Level allowed true
  having : ∀ condition ∈ layer.having, condition.2.Level allowed true
  orderBy : ∀ entry ∈ layer.orderBy, entry.Level allowed true

namespace Draft

theorem Level.columnList {columns : List Draft}
    (level : ∀ column ∈ columns, column.Level allowed true) :
    (columnList columns).Level allowed true := by
  unfold Draft.columnList
  split
  · exact fun _ _ => .cons .unnamedColumn .nil
  · exact ((Level.join (by decide) (fun _ => rfl) level).ledBy (by decide) fun _ => rfl).ofFirm

/-- A clause with a list, which is left out if the list is empty. -/
theorem Level.listing {lead : String} (isFirm : isFirm lead)
    (nests : ∀ depth, Text.nesting depth lead.toList = some depth) {drafts : List Draft}
    (level : ∀ draft ∈ drafts, draft.Level allowed true) (empty : Bool) :
    (if empty then {} else ofText lead ++ Draft.join ", " drafts).Level allowed false := by
  split
  · exact level_empty false
  · exact (Level.join (by decide) (fun _ => rfl) level).led isFirm nests

theorem Level.grouped {draft : Draft} (level : draft.Level allowed true) :
    ∀ group ∈ grouped draft, group.Level allowed true := by
  unfold Draft.grouped
  split <;> simp [level.parenthesized]

end Draft

namespace Layer

theorem level_returned {layers : List Layer} (level : ∀ layer ∈ layers, layer.Level allowed) :
    (returned layers).Level allowed true := by
  unfold returned
  cases enumerated : layers.mapM columns with
  | none => exact fun _ => Draft.leads_fail _ _ _
  | some columns =>
    apply Draft.Level.columnList
    simp only [List.forall_mem_append, List.forall_mem_flatMap, List.forall_mem_flatten]
    refine ⟨⟨⟨?_, ?_⟩, ?_⟩, ?_⟩
    · intro list member
      obtain ⟨layer, among, own⟩ := exists_of_mapM_columns enumerated list member
      exact (level layer among).columns list own
    · exact fun layer member => (level layer member).queryColumns
    · exact fun layer member => (level layer member).valueColumns
    · exact fun layer member => (level layer member).functionColumns

theorem level_selection {select : Select} {layers : List Layer}
    (counted : Supplied.Within allowed (select.count.toList.flatMap Count.supplied))
    (level : ∀ layer ∈ layers, layer.Level allowed) :
    (selection select layers).Level allowed true := by
  unfold selection
  cases counting : select.count with
  | none => exact level_returned level
  | some count => exact count.level_draft (by simpa [counting] using counted)

theorem level_conditions {place : Layer → Option (Conjunction × Draft)} {layers : List Layer}
    (level : ∀ layer ∈ layers, ∀ condition ∈ place layer, condition.2.Level allowed true) :
    (Draft.allOf (layers.filterMap place)).Level allowed true := by
  apply Draft.Level.allOf
  intro condition member
  obtain ⟨layer, among, own⟩ := List.mem_filterMap.mp member
  exact level layer among condition own

theorem level_compose {select : Select} {own : Layer} {joined : List Layer}
    (table : Supplied.Within allowed (select.table.toList.flatMap Table.supplied))
    (counted : Supplied.Within allowed (select.count.toList.flatMap Count.supplied))
    (grouped : Supplied.Within allowed (select.groupBy.flatMap Column.referred))
    (level : ∀ layer ∈ own :: joined, layer.Level allowed) :
    (compose select own joined).Level allowed true := by
  unfold compose
  cases introduced : select.table with
  | none => exact fun _ => Draft.leads_fail _ _ _
  | some source =>
    apply Draft.Level.withTable
    have keyword : ∀ depth, (Draft.ofText (if select.distinct then "SELECT DISTINCT"
        else "SELECT")).Leads allowed ⟨depth, true⟩ ⟨depth, true⟩ := by
      intro depth
      cases select.distinct <;> exact Draft.leads_ofText (by decide) rfl
    have lead : ∀ depth, (Draft.ofText " FROM ").Leads allowed ⟨depth, false⟩ ⟨depth, true⟩ :=
      fun _ => Draft.leads_ofText (by decide) rfl
    have named : Draft.Level allowed true { pieces := source.pieces } :=
      Table.level_pieces (by simpa [introduced] using table)
    have joins : (Draft.sequence (joined.map fun layer => .ofText " " ++ layer.join)).Level
        allowed false := by
      apply Draft.Level.sequence
      simp only [List.forall_mem_map]
      exact fun layer member =>
        (level layer (by simp [member])).join.led (by decide) fun _ => rfl
    have groupBy : (if select.groupBy.isEmpty then {} else .ofText " GROUP BY " ++
        .join ", " (select.groupBy.map Column.reference) : Draft).Level allowed false := by
      apply Draft.Level.listing (by decide) fun _ => rfl
      simp only [List.forall_mem_map]
      exact fun column member => column.level_reference
        (fun given source => grouped given (List.mem_flatMap.mpr ⟨column, member, source⟩))
    have orderBy : (if ((own :: joined).flatMap orderBy).isEmpty then {} else
        .ofText " ORDER BY " ++ .join ", " ((own :: joined).flatMap Layer.orderBy) : Draft).Level
        allowed false := by
      apply Draft.Level.listing (by decide) fun _ => rfl
      simp only [List.forall_mem_flatMap]
      exact fun layer member => (level layer member).orderBy
    have filters : (Draft.ledBy " WHERE " (.allOf ((own :: joined).filterMap filter))).Level
        allowed false :=
      (level_conditions fun layer member => (level layer member).filter).ledBy (by decide)
        fun _ => rfl
    have havings : (Draft.ledBy " HAVING " (.allOf ((own :: joined).filterMap having))).Level
        allowed false :=
      (level_conditions fun layer member => (level layer member).having).ledBy (by decide)
        fun _ => rfl
    have window : select.window.draft.Level allowed false := select.window.level_draft
    have selected : (Draft.ofText (if select.distinct then "SELECT DISTINCT" else "SELECT") ++
        selection select (own :: joined) ++ .ofText " FROM " ++
        { pieces := source.pieces }).Level allowed true :=
      fun depth => (((keyword depth).append (level_selection counted level depth)).append
        (lead depth)).append (named depth)
    exact ((((((selected.append joins).append filters).append groupBy).append havings).append
      orderBy).append window)

theorem level_draft {select : Select} (within : Supplied.Within allowed select.supplied)
    (own : select.layer.Level allowed)
    (joined : ∀ layer ∈ select.joinedLayers, layer.Level allowed) :
    (draft select select.layer select.joinedLayers).Level allowed true := by
  have allows := Select.allows within
  apply Draft.Level.under allows.comment
  split
  · exact own.join
  · exact level_compose allows.table allows.count allows.groupBy (by simpa using ⟨own, joined⟩)

theorem level_joinDraft {table : Option Table} {joinType : Option JoinType} {link : Draft}
    (within : Supplied.Within allowed (table.toList.flatMap Table.supplied))
    (level : link.Level allowed true) : (joinDraft table joinType link).Level allowed true := by
  cases table with
  | none => exact fun _ => Draft.leads_fail _ _ _
  | some table =>
    apply Draft.Level.withTable
    have keyword : ∀ depth, (Draft.ofText ((joinType.getD .plain).keyword ++ " ")).Leads allowed
        ⟨depth, true⟩ ⟨depth, true⟩ := by
      intro depth
      cases joinType.getD .plain <;> exact Draft.leads_ofText (by decide) rfl
    have source : Draft.Level allowed true { pieces := table.pieces } :=
      Table.level_pieces (by simpa using within)
    have link : (link.ledBy " ON ").Level allowed false := level.ledBy (by decide) fun _ => rfl
    exact fun depth => ((keyword depth).append (source depth)).append (link depth)

end Layer

/-! ### Conditions and SELECT statements -/

theorem Select.level_columns {select : Select}
    (table : Supplied.Within allowed (select.table.toList.flatMap Table.supplied))
    (columns : Supplied.Within allowed ((select.columns.getD []).flatMap Column.supplied)) :
    ∀ columns ∈ select.ownColumns.toOption.map (·.map Column.selected),
      ∀ column ∈ columns, column.Level allowed true := by
  simp only [Supplied.within_flatMap, Option.mem_toList] at table columns
  intro listed enumerated
  obtain ⟨own, found, rfl⟩ := Option.map_eq_some_iff.mp enumerated
  unfold ownColumns at found
  split at found
  · cases found
  · rename_i source introduced
    cases found
    simp only [List.forall_mem_map]
    split
    · rename_i chosen
      simp only [chosen, Option.getD_some] at columns
      exact fun column member => column.level_selected (columns column member)
    · split
      · simp
      · simpa using Column.level_selected_wildcard (table source introduced)

mutual

theorem Operand.level_draft : (operand : Operand) → Supplied.Within allowed operand.supplied →
    operand.draft.Level allowed true
  | .value bound, _ => Draft.level_ofValue bound
  | .column column, within => column.level_reference within
  | .select select, within => by
    rw [Operand.supplied] at within
    rw [Operand.draft]
    exact (Layer.level_draft within (Select.level_layer select within)
      (Select.level_joinedLayers select within)).parenthesized true

theorem ComparisonClause.level_drafts : (clauses : List ComparisonClause) →
    Supplied.Within allowed (ComparisonClause.supplied clauses) →
    ∀ draft ∈ ComparisonClause.drafts clauses, draft.Level allowed true
  | [], _ => by simp [ComparisonClause.drafts]
  | { subject, relation, target } :: rest, within => by
    simp only [ComparisonClause.supplied, Supplied.within_append] at within
    obtain ⟨⟨referred, targeted⟩, others⟩ := within
    simp only [ComparisonClause.drafts, List.forall_mem_cons]
    refine ⟨?_, ComparisonClause.level_drafts rest others⟩
    exact (Draft.Level.related referred (Operand.level_draft target targeted)
      relation).parenthesized true

theorem ExistenceClause.level_drafts : (clauses : List ExistenceClause) →
    Supplied.Within allowed (ExistenceClause.supplied clauses) →
    ∀ draft ∈ ExistenceClause.drafts clauses, draft.Level allowed true
  | [], _ => by simp [ExistenceClause.drafts]
  | { select, negated } :: rest, within => by
    simp only [ExistenceClause.supplied, Supplied.within_append] at within
    simp only [ExistenceClause.drafts, List.forall_mem_cons]
    refine ⟨?_, ExistenceClause.level_drafts rest within.2⟩
    exact ((Layer.level_draft within.1 (Select.level_layer select within.1)
      (Select.level_joinedLayers select within.1)).exists).negatedIf negated

theorem Condition.level_draft : (condition : Condition) →
    Supplied.Within allowed condition.supplied → condition.draft.Level allowed true
  | { conjunction, comparisons, ranges, memberships, nullChecks, bits, searches,
      existences, literals, subconditions, .. }, within => by
    simp only [Condition.supplied, Supplied.within_append, Supplied.within_flatMap,
      Supplied.within_map] at within
    obtain ⟨⟨⟨⟨⟨⟨⟨⟨searched, membered⟩, ranged⟩, compared⟩, checked⟩, bitten⟩, existing⟩,
      literal⟩, nested⟩ := within
    rw [Condition.draft]
    apply Draft.Level.join
    · cases conjunction <;> decide
    · cases conjunction <;> exact fun _ => rfl
    simp only [List.forall_mem_append, List.forall_mem_map]
    refine ⟨⟨⟨⟨⟨⟨⟨⟨?_, ?_⟩, ?_⟩, ?_⟩, ?_⟩, ?_⟩, ?_⟩, ?_⟩, ?_⟩
    · exact fun clause member => clause.level_draft (searched clause member)
    · intro draft member
      obtain ⟨clause, among, rfl⟩ := List.mem_map.mp member
      exact clause.level_draft (membered clause (List.mem_filter.mp among).1)
    · exact fun clause member => clause.level_draft (ranged clause member)
    · exact ComparisonClause.level_drafts comparisons compared
    · exact fun clause member => clause.level_draft (checked clause member)
    · exact fun clause member => clause.level_draft (bitten clause member)
    · exact ExistenceClause.level_drafts existences existing
    · exact fun text member => Draft.level_piece (literal text member _ (by simp [Supplied.pieces]))
    · exact Condition.level_subdrafts subconditions nested

theorem Condition.level_subdrafts : (conditions : List Condition) →
    Supplied.Within allowed (Condition.suppliedAll conditions) →
    ∀ draft ∈ Condition.subdrafts conditions, draft.Level allowed true
  | [], _ => by simp [Condition.subdrafts]
  | condition :: rest, within => by
    simp only [Condition.suppliedAll, Supplied.within_append] at within
    simp only [Condition.subdrafts, List.forall_mem_append]
    exact ⟨(Condition.level_draft condition within.1).grouped,
      Condition.level_subdrafts rest within.2⟩

theorem Condition.level_connected : (condition : Option Condition) →
    Supplied.Within allowed (Condition.supplied? condition) →
    ∀ connected ∈ Condition.connected condition, connected.2.Level allowed true
  | none, _ => by simp [Condition.connected]
  | some condition, within => by
    simpa [Condition.connected] using Condition.level_draft condition within

theorem QueryColumn.level_drafts : (columns : List QueryColumn) →
    Supplied.Within allowed (QueryColumn.supplied columns) →
    ∀ draft ∈ QueryColumn.drafts columns, draft.Level allowed true
  | [], _ => by simp [QueryColumn.drafts]
  | { select, aliasName } :: rest, within => by
    simp only [QueryColumn.supplied, Supplied.within_append, Supplied.within_cons] at within
    simp only [QueryColumn.drafts, List.forall_mem_cons]
    have group := (Layer.level_draft within.1.1 (Select.level_layer select within.1.1)
      (Select.level_joinedLayers select within.1.1)).parenthesized true
    exact ⟨group.aliased within.1.2.1, QueryColumn.level_drafts rest within.2⟩

theorem Select.level_layer : (select : Select) → Supplied.Within allowed select.supplied →
    select.layer.Level allowed
  | { link, queryColumns, filter, having, .. }, within => by
    have allows := Select.allows within
    have valueColumns := allows.valueColumns
    have functionColumns := allows.functionColumns
    have orderBy := allows.orderBy
    simp only [Supplied.within_map, Supplied.within_flatMap] at valueColumns functionColumns orderBy
    rw [Select.layer]
    exact
      { columns := Select.level_columns allows.table allows.columns
        queryColumns := QueryColumn.level_drafts queryColumns allows.queryColumns
        valueColumns := by
          simpa using fun column member => ValueColumn.level_draft (valueColumns column member)
        functionColumns := by
          simpa using fun column member =>
            FunctionColumn.level_draft (functionColumns column member)
        join := Layer.level_joinDraft allows.table (Condition.level_draft link allows.link)
        filter := Condition.level_connected filter allows.filter
        having := Condition.level_connected having allows.having
        orderBy := by simpa using fun entry member => OrderBy.level_draft (orderBy entry member) }

theorem Select.level_joinedLayers : (select : Select) → Supplied.Within allowed select.supplied →
    ∀ layer ∈ select.joinedLayers, layer.Level allowed
  | { joins, .. }, within => by
    rw [Select.joinedLayers]
    exact Select.level_layersOf joins (Select.allows within).joins

theorem Select.level_layersOf : (selects : List Select) →
    Supplied.Within allowed (Select.suppliedAll selects) →
    ∀ layer ∈ Select.layersOf selects, layer.Level allowed
  | [], _ => by simp [Select.layersOf]
  | select :: rest, within => by
    simp only [Select.suppliedAll, Supplied.within_append] at within
    simp only [Select.layersOf, List.forall_mem_cons, List.forall_mem_append]
    exact ⟨Select.level_layer select within.1, Select.level_joinedLayers select within.1,
      Select.level_layersOf rest within.2⟩

end

theorem Select.level_draft {select : Select} (within : Supplied.Within allowed select.supplied) :
    select.draft.Level allowed true :=
  Layer.level_draft within (level_layer select within) (level_joinedLayers select within)

/-! ### Statements -/

namespace Draft

theorem level_restriction {condition : Option Condition}
    (within : Supplied.Within allowed (Condition.supplied? condition)) :
    (restriction condition).Level allowed false := by
  cases condition with
  | none => exact level_empty false
  | some condition =>
    exact (condition.level_draft (by simpa [Condition.supplied?] using within)).ledBy (by decide)
      fun _ => rfl

theorem level_members (kind : Kind) {members : List Select}
    (within : Supplied.Within allowed (Select.suppliedAll members)) :
    (Draft.members kind members).Level allowed true := by
  have level : ∀ member ∈ members, member.draft.Level allowed true := by
    induction members with
    | nil => simp
    | cons first rest ih =>
      simp only [Select.suppliedAll, Supplied.within_append] at within
      simpa using ⟨Select.level_draft within.1, ih within.2⟩
  unfold Draft.members
  split
  · exact fun _ => leads_fail _ _ _
  · apply Level.join
    · cases kind <;> decide
    · cases kind <;> exact fun _ => rfl
    · simpa using level

end Draft

theorem Insert.level_draft {insert : Insert}
    (within : Supplied.Within allowed (Statement.insert insert).supplied) :
    insert.draft.Level allowed true := by
  simp only [Statement.supplied, Supplied.within_append] at within
  obtain ⟨⟨table, comment⟩, assigned⟩ := within
  apply Draft.Level.under comment
  split
  · exact fun _ => Draft.leads_fail _ _ _
  · apply Draft.Level.withTable
    intro depth
    have keyword : (Draft.ofText "INSERT INTO ").Leads allowed ⟨depth, true⟩ ⟨depth, true⟩ :=
      Draft.leads_ofText (by decide) rfl
    have opening : (Draft.ofText " (").Leads allowed ⟨depth, false⟩ ⟨depth + 1, true⟩ :=
      Draft.leads_ofText (by decide) rfl
    have columns : (Draft.join ", " (insert.columns.map Column.reference)).Level allowed true :=
      Draft.level_references (by simpa [Insert.columns, List.flatMap_map] using assigned)
    have between : (Draft.ofText ") VALUES (").Leads allowed
        ⟨depth + 1, false⟩ ⟨depth + 1, true⟩ :=
      Draft.leads_ofText (by decide) rfl
    have values : (Draft.join ", " (insert.assignments.map fun one => .ofValue one.value)).Level
        allowed true := by
      simpa [Function.comp_def] using Draft.level_values (insert.assignments.map (·.value))
    have closing : (Draft.ofText ")").Leads allowed ⟨depth + 1, false⟩ ⟨depth, true⟩ :=
      Draft.leads_ofText (by decide) rfl
    exact ((((((keyword.append (Table.level_pieces table depth)).append opening).append
      (columns (depth + 1))).append between).append (values (depth + 1))).append closing).loosen

theorem Update.level_draft {update : Update}
    (within : Supplied.Within allowed (Statement.update update).supplied) :
    update.draft.Level allowed true := by
  simp only [Statement.supplied, Supplied.within_append, Supplied.within_flatMap] at within
  obtain ⟨⟨⟨table, comment⟩, assigned⟩, restricted⟩ := within
  apply Draft.Level.under comment
  split
  · exact fun _ => Draft.leads_fail _ _ _
  · apply Draft.Level.withTable
    have keyword : ∀ depth, (Draft.ofText "UPDATE ").Leads allowed ⟨depth, true⟩ ⟨depth, true⟩ :=
      fun _ => Draft.leads_ofText (by decide) rfl
    have assignments : (Draft.join ", " (update.assignments.map Assignment.draft)).Level
        allowed true := by
      apply Draft.Level.join (by decide) (fun _ => rfl)
      simpa using fun one member => Assignment.level_draft (assigned one member)
    have changes : (Draft.ofText "UPDATE " ++ { pieces := update.table.pieces } ++
        .ofText " SET " ++ .join ", " (update.assignments.map Assignment.draft)).Level
        allowed true := by
      rw [Draft.append_assoc _ (.ofText " SET ")]
      exact fun depth => ((keyword depth).append (Table.level_pieces table depth)).append
        (assignments.led (by decide) (fun _ => rfl) depth)
    exact (changes.append (Draft.level_restriction restricted)).append (Draft.level_limit _)

theorem Delete.level_draft {delete : Delete}
    (within : Supplied.Within allowed (Statement.delete delete).supplied) :
    delete.draft.Level allowed true := by
  simp only [Statement.supplied, Supplied.within_append] at within
  obtain ⟨⟨table, comment⟩, restricted⟩ := within
  apply Draft.Level.under comment
  apply Draft.Level.withTable
  have keyword : ∀ depth, (Draft.ofText "DELETE FROM ").Leads allowed
      ⟨depth, true⟩ ⟨depth, true⟩ :=
    fun _ => Draft.leads_ofText (by decide) rfl
  have source : (Draft.ofText "DELETE FROM " ++ { pieces := delete.table.pieces }).Level
      allowed true :=
    fun depth => (keyword depth).append (Table.level_pieces table depth)
  exact (source.append (Draft.level_restriction restricted)).append (Draft.level_limit _)

/-- The draft of a statement is level if the texts that it was given are allowed. -/
theorem Statement.level_draft {statement : Statement}
    (within : Supplied.Within allowed statement.supplied) :
    statement.draft.Level allowed true := by
  cases statement with
  | select statement => exact Select.level_draft within
  | insert statement => exact Insert.level_draft within
  | update statement => exact Update.level_draft within
  | delete statement => exact Delete.level_draft within
  | combination statement =>
    simp only [supplied, Supplied.within_append] at within
    exact Draft.Level.under within.2 (Draft.level_members _ within.1)
  | difference statement =>
    simp only [supplied, Supplied.within_append] at within
    exact Draft.Level.under within.2 (Draft.level_members _ within.1)

end BoundSql
