import BoundSql.Proofs.Draft.Finished
import BoundSql.Proofs.Draft.Statements
/-!
# What can be compiled

The draft of a statement is finished exactly if the statement is well formed.  So a
statement compiles in a dialect exactly if it is well formed, and what is missing
otherwise is the only error.
-/

namespace BoundSql

/-! ### SELECT statements -/

theorem Select.wellFormed_join {select : Select} (isJoin : select.isJoin) :
    select.WellFormed ↔ select.HasNamedTable ∧ select.link.WellFormed := by
  constructor
  · rintro (⟨_, table, link⟩ | ⟨isWhole, _⟩)
    · exact ⟨table, link⟩
    · exact absurd isJoin isWhole
  · rintro ⟨table, link⟩
    exact .join isJoin table link

theorem Select.wellFormed_whole {select : Select} (isWhole : ¬ select.isJoin) :
    select.WellFormed ↔
      select.HasNamedTable ∧
        (∀ join ∈ select.allJoins, join.HasNamedTable ∧ join.link.WellFormed) ∧
        (∀ one ∈ select.flattened, ∀ filter ∈ one.filter, filter.WellFormed) ∧
        (∀ one ∈ select.flattened, ∀ having ∈ one.having, having.WellFormed) ∧
        (select.count = none → ∀ one ∈ select.flattened,
          ∀ column ∈ one.queryColumns, column.select.WellFormed) := by
  constructor
  · rintro (⟨isJoin, _⟩ | ⟨_, table, joins, links, filters, havings, queryColumns⟩)
    · exact absurd isJoin isWhole
    · exact ⟨table, fun join member => ⟨joins join member, links join member⟩, filters, havings,
        queryColumns⟩
  · rintro ⟨table, joins, filters, havings, queryColumns⟩
    exact .whole isWhole table (fun join member => (joins join member).1)
      (fun join member => (joins join member).2) filters havings queryColumns

theorem Condition.wellFormed_iff (condition : Condition) :
    condition.WellFormed ↔
      (∀ clause ∈ condition.comparisons, ∀ select ∈ clause.target.select?, select.WellFormed) ∧
        (∀ clause ∈ condition.existences, clause.select.WellFormed) ∧
        ∀ one ∈ condition.subconditions, one.WellFormed := by
  constructor
  · rintro ⟨comparisons, existences, subconditions⟩
    exact ⟨comparisons, existences, subconditions⟩
  · rintro ⟨comparisons, existences, subconditions⟩
    exact .intro comparisons existences subconditions

namespace Layer

/-- The drafts of a layer are finished exactly if what a SELECT has in their places is
well formed. -/
structure Reflects (layer : Layer) (select : Select) : Prop where
  queryColumns : (∀ column ∈ layer.queryColumns, column.IsFinished) ↔
    ∀ column ∈ select.queryColumns, column.select.WellFormed
  join : layer.join.IsFinished ↔ select.HasNamedTable ∧ select.link.WellFormed
  filter : (∀ condition ∈ layer.filter, condition.2.IsFinished) ↔
    ∀ filter ∈ select.filter, filter.WellFormed
  having : (∀ condition ∈ layer.having, condition.2.IsFinished) ↔
    ∀ having ∈ select.having, having.WellFormed

theorem isFinished_joinDraft (table : Option Table) (joinType : Option JoinType) (link : Draft) :
    (joinDraft table joinType link).IsFinished ↔
      (∃ source ∈ table, source.IsNamed) ∧ link.IsFinished := by
  cases table with
  | none => simp [joinDraft]
  | some table => simp [joinDraft, Draft.isFinished_withTable]

variable {select : Select}

/-- Of the columns that are returned, only those of queries can lack something beside a
table. -/
theorem isFinished_returned (reflects : ∀ one ∈ select.flattened, one.layer.Reflects one) :
    (returned (select.flattened.map Select.layer)).IsFinished ↔
      (∀ one ∈ select.flattened, one.table.isSome) ∧
        ∀ one ∈ select.flattened, ∀ column ∈ one.queryColumns, column.select.WellFormed := by
  unfold returned
  rw [mapM_columns, ← Select.mapM_ownColumns_eq_ok]
  cases enumerated : select.flattened.mapM Select.ownColumns with
  | error error => simp [Except.toOption]
  | ok columns =>
    have queries : (∀ one ∈ select.flattened, ∀ column ∈ one.layer.queryColumns,
        column.IsFinished) ↔
          ∀ one ∈ select.flattened, ∀ column ∈ one.queryColumns, column.select.WellFormed :=
      forall₂_congr fun one member => (reflects one member).queryColumns
    simp only [Except.toOption, Option.map_some, flatMap_valueColumns, flatMap_functionColumns,
      ← List.map_flatten, Draft.isFinished_columnList, List.forall_mem_append, List.forall_mem_map,
      List.forall_mem_flatMap, Column.isFinished_selected, ValueColumn.isFinished_draft,
      FunctionColumn.isFinished_draft]
    simp [queries]

theorem isFinished_selection (reflects : ∀ one ∈ select.flattened, one.layer.Reflects one)
    (tables : ∀ one ∈ select.flattened, one.HasNamedTable) :
    (selection select (select.flattened.map Select.layer)).IsFinished ↔
      (select.count = none → ∀ one ∈ select.flattened,
        ∀ column ∈ one.queryColumns, column.select.WellFormed) := by
  have present : ∀ one ∈ select.flattened, one.table.isSome := by
    intro one member
    obtain ⟨table, introduced, _⟩ := tables one member
    exact Option.isSome_of_mem introduced
  unfold selection
  cases select.count with
  | none =>
    rw [isFinished_returned reflects]
    exact ⟨fun ⟨_, queries⟩ _ => queries, fun queries => ⟨present, queries rfl⟩⟩
  | some count => simp

theorem isFinished_conditions {place : Layer → Option (Conjunction × Draft)}
    {condition : Select → Option Condition} {selects : List Select}
    (reflects : ∀ one ∈ selects, (∀ written ∈ place one.layer, written.2.IsFinished) ↔
      ∀ wanted ∈ condition one, wanted.WellFormed) :
    (Draft.allOf ((selects.map Select.layer).filterMap place)).IsFinished ↔
      ∀ one ∈ selects, ∀ wanted ∈ condition one, wanted.WellFormed := by
  rw [Draft.isFinished_allOf, ← forall₂_congr reflects]
  simp only [List.filterMap_map, List.mem_filterMap, Function.comp_apply, Option.mem_def]
  exact ⟨fun finished one member written found => finished written ⟨one, member, found⟩,
    fun finished written ⟨one, member, found⟩ => finished one member written found⟩

/-- A whole SELECT needs its own table and what its layers need. -/
theorem isFinished_compose (reflects : ∀ one ∈ select.flattened, one.layer.Reflects one) :
    (compose select select.layer (select.allJoins.map Select.layer)).IsFinished ↔
      select.HasNamedTable ∧
        (∀ join ∈ select.allJoins, join.HasNamedTable ∧ join.link.WellFormed) ∧
        (∀ one ∈ select.flattened, ∀ filter ∈ one.filter, filter.WellFormed) ∧
        (∀ one ∈ select.flattened, ∀ having ∈ one.having, having.WellFormed) ∧
        (select.count = none → ∀ one ∈ select.flattened,
          ∀ column ∈ one.queryColumns, column.select.WellFormed) := by
  have layers : select.layer :: select.allJoins.map Select.layer =
      select.flattened.map Select.layer := rfl
  have joins : (∀ join ∈ select.allJoins, join.layer.join.IsFinished) ↔
      ∀ join ∈ select.allJoins, join.HasNamedTable ∧ join.link.WellFormed :=
    forall₂_congr fun join member => (reflects join (.tail _ member)).join
  have filters : (Draft.allOf ((select.flattened.map Select.layer).filterMap filter)).IsFinished ↔
      ∀ one ∈ select.flattened, ∀ filter ∈ one.filter, filter.WellFormed :=
    isFinished_conditions fun one member => (reflects one member).filter
  have havings : (Draft.allOf ((select.flattened.map Select.layer).filterMap having)).IsFinished ↔
      ∀ one ∈ select.flattened, ∀ having ∈ one.having, having.WellFormed :=
    isFinished_conditions fun one member => (reflects one member).having
  unfold compose
  cases introduced : select.table with
  | none => simp [Select.HasNamedTable, introduced]
  | some table =>
    have named : select.HasNamedTable ↔ table.IsNamed := by
      simp [Select.HasNamedTable, introduced]
    have written : (Draft.sequence ((select.allJoins.map Select.layer).map fun layer =>
        .ofText " " ++ layer.join)).IsFinished ↔
        ∀ join ∈ select.allJoins, join.HasNamedTable ∧ join.link.WellFormed := by
      simpa using joins
    simp only [layers, Draft.isFinished_withTable, Draft.isFinished_append, flatMap_orderBy,
      Draft.isFinished_ledBy, filters, havings, written, ← named]
    simp only [Draft.isFinished_ofText, Draft.isFinished_mk, Draft.isFinished_ite,
      Draft.isFinished_append, Draft.isFinished_join, List.forall_mem_map,
      Column.isFinished_reference, OrderBy.isFinished_draft, Window.isFinished_draft,
      implies_true, and_true, true_and, and_assoc]
    refine and_congr_right fun ownTable => ?_
    constructor
    · rintro ⟨selected, joined, filtered, kept⟩
      have tables : ∀ one ∈ select.flattened, one.HasNamedTable :=
        List.forall_mem_cons.mpr ⟨ownTable, fun join member => (joined join member).1⟩
      exact ⟨joined, filtered, kept, (isFinished_selection reflects tables).mp selected⟩
    · rintro ⟨joined, filtered, kept, queries⟩
      have tables : ∀ one ∈ select.flattened, one.HasNamedTable :=
        List.forall_mem_cons.mpr ⟨ownTable, fun join member => (joined join member).1⟩
      exact ⟨(isFinished_selection reflects tables).mpr queries, joined, filtered, kept⟩

theorem isFinished_draft (own : select.layer.Reflects select)
    (joined : ∀ one ∈ select.allJoins, one.layer.Reflects one) :
    (draft select select.layer select.joinedLayers).IsFinished ↔ select.WellFormed := by
  unfold draft
  rw [Draft.isFinished_under, Select.joinedLayers_eq]
  split
  · rename_i isJoin
    rw [own.join, Select.wellFormed_join isJoin]
  · rename_i isWhole
    rw [isFinished_compose (List.forall_mem_cons.mpr ⟨own, joined⟩),
      Select.wellFormed_whole isWhole]

end Layer

mutual

theorem Operand.isFinished_draft : (operand : Operand) →
    (operand.draft.IsFinished ↔ ∀ select ∈ operand.select?, select.WellFormed)
  | .value bound => by simp [Operand.draft, Operand.select?]
  | .column column => by simp [Operand.draft, Operand.select?]
  | .select whole => by
    simp [Operand.draft, Operand.select?, Layer.isFinished_draft (Select.reflects_layer whole)
      (Select.reflects_allJoins whole)]

theorem ComparisonClause.isFinished_drafts : (clauses : List ComparisonClause) →
    ((∀ draft ∈ ComparisonClause.drafts clauses, draft.IsFinished) ↔
      ∀ clause ∈ clauses, ∀ select ∈ clause.target.select?, select.WellFormed)
  | [] => by simp [ComparisonClause.drafts]
  | { subject, relation, target } :: rest => by
    simp only [ComparisonClause.drafts, List.forall_mem_cons, Draft.isFinished_comparison,
      Operand.isFinished_draft target, ComparisonClause.isFinished_drafts rest]

theorem ExistenceClause.isFinished_drafts : (clauses : List ExistenceClause) →
    ((∀ draft ∈ ExistenceClause.drafts clauses, draft.IsFinished) ↔
      ∀ clause ∈ clauses, clause.select.WellFormed)
  | [] => by simp [ExistenceClause.drafts]
  | { select, negated } :: rest => by
    simp only [ExistenceClause.drafts, List.forall_mem_cons, Draft.isFinished_negatedIf,
      Draft.isFinished_exists, Layer.isFinished_draft (Select.reflects_layer select)
        (Select.reflects_allJoins select), ExistenceClause.isFinished_drafts rest]

/-- A condition is written to its end exactly if it is well formed. -/
theorem Condition.isFinished_draft : (condition : Condition) →
    (condition.draft.IsFinished ↔ condition.WellFormed)
  | { conjunction, comparisons, ranges, memberships, nullChecks, bits, searches,
      existences, literals, subconditions, .. } => by
    rw [Condition.wellFormed_iff, Condition.draft, Draft.isFinished_join]
    simp only [List.forall_mem_append, List.forall_mem_map,
      ComparisonClause.isFinished_drafts comparisons, ExistenceClause.isFinished_drafts existences,
      Condition.isFinished_subdrafts subconditions]
    simp [iff_true_intro (MembershipClause.isFinished_drafts memberships), and_assoc]

theorem Condition.isFinished_subdrafts : (conditions : List Condition) →
    ((∀ draft ∈ Condition.subdrafts conditions, draft.IsFinished) ↔
      ∀ condition ∈ conditions, condition.WellFormed)
  | [] => by simp [Condition.subdrafts]
  | condition :: rest => by
    simp only [Condition.subdrafts, List.forall_mem_append, List.forall_mem_cons,
      Draft.isFinished_grouped, Condition.isFinished_draft condition,
      Condition.isFinished_subdrafts rest]

theorem Condition.isFinished_connected : (condition : Option Condition) →
    ((∀ connected ∈ Condition.connected condition, connected.2.IsFinished) ↔
      ∀ wanted ∈ condition, wanted.WellFormed)
  | none => by simp [Condition.connected]
  | some condition => by simp [Condition.connected, Condition.isFinished_draft condition]

theorem QueryColumn.isFinished_drafts : (columns : List QueryColumn) →
    ((∀ draft ∈ QueryColumn.drafts columns, draft.IsFinished) ↔
      ∀ column ∈ columns, column.select.WellFormed)
  | [] => by simp [QueryColumn.drafts]
  | { select, aliasName } :: rest => by
    simp only [QueryColumn.drafts, List.forall_mem_cons, Draft.isFinished_aliased,
      Draft.isFinished_parenthesized, Layer.isFinished_draft (Select.reflects_layer select)
        (Select.reflects_allJoins select), QueryColumn.isFinished_drafts rest]

theorem Select.reflects_layer : (select : Select) → select.layer.Reflects select
  | { link, queryColumns, filter, having, .. } => by
    rw [Select.layer]
    exact
      { queryColumns := QueryColumn.isFinished_drafts queryColumns
        join := by
          rw [Layer.isFinished_joinDraft, Condition.isFinished_draft link]
          rfl
        filter := Condition.isFinished_connected filter
        having := Condition.isFinished_connected having }

theorem Select.reflects_allJoins : (select : Select) →
    ∀ join ∈ select.allJoins, join.layer.Reflects join
  | { joins, .. } => by
    rw [Select.allJoins]
    exact Select.reflects_withAllJoins joins

theorem Select.reflects_withAllJoins : (selects : List Select) →
    ∀ one ∈ Select.withAllJoins selects, one.layer.Reflects one
  | [] => by simp [Select.withAllJoins]
  | select :: rest => by
    simp only [Select.withAllJoins, List.forall_mem_cons, List.forall_mem_append]
    exact ⟨Select.reflects_layer select, Select.reflects_allJoins select,
      Select.reflects_withAllJoins rest⟩

end

theorem Select.isFinished_draft (select : Select) :
    select.draft.IsFinished ↔ select.WellFormed :=
  Layer.isFinished_draft (reflects_layer select) (reflects_allJoins select)

/-! ### Statements -/

namespace Draft

theorem isFinished_restriction (condition : Option Condition) :
    (restriction condition).IsFinished ↔ ∀ wanted ∈ condition, wanted.WellFormed := by
  cases condition with
  | none => simp [restriction]
  | some condition => simp [restriction, Condition.isFinished_draft]

theorem isFinished_members (kind : Kind) (members : List Select) :
    (Draft.members kind members).IsFinished ↔
      members ≠ [] ∧ ∀ member ∈ members, member.WellFormed := by
  unfold Draft.members
  split <;> simp_all [Select.isFinished_draft]

end Draft

theorem Insert.isFinished_draft (insert : Insert) :
    insert.draft.IsFinished ↔ insert.WellFormed := by
  unfold draft WellFormed
  rw [Draft.isFinished_under]
  split
  · simp_all
  · simp_all [Draft.isFinished_withTable]

theorem Update.isFinished_draft (update : Update) :
    update.draft.IsFinished ↔ update.WellFormed := by
  unfold draft WellFormed
  rw [Draft.isFinished_under]
  split
  · simp_all
  · simp_all [Draft.isFinished_withTable, Draft.isFinished_restriction]

theorem Delete.isFinished_draft (delete : Delete) :
    delete.draft.IsFinished ↔ delete.WellFormed := by
  simp [draft, WellFormed, Draft.isFinished_withTable, Draft.isFinished_restriction]

theorem Statement.isFinished_draft (statement : Statement) :
    statement.draft.IsFinished ↔ statement.WellFormed := by
  cases statement with
  | select statement => exact statement.isFinished_draft
  | insert statement => exact statement.isFinished_draft
  | update statement => exact statement.isFinished_draft
  | delete statement => exact statement.isFinished_draft
  | combination statement =>
    simp only [draft, Combination.draft, Draft.isFinished_under, Draft.isFinished_members]
    rfl
  | difference statement =>
    simp [draft, Difference.draft, Draft.isFinished_members, WellFormed, Difference.WellFormed,
      Difference.members]

/-- To see whether a statement is well formed, its draft is made. -/
instance Statement.decidableWellFormed (statement : Statement) : Decidable statement.WellFormed :=
  decidable_of_iff (statement.draft.failure = none) statement.isFinished_draft

-- A SELECT that only counts does not write its query columns, so one of them may lack a table.
example :
    Statement.WellFormed
      (.select
        { table := some { name := "a" }
          link := {}
          queryColumns := [{ select := { link := {} }, aliasName := "b" }]
          count := some { column := none, aliasName := none } }) := by
  decide

/-- A statement compiles, in any dialect, exactly if it is well formed, and otherwise the
error is that something is missing. -/
theorem Statement.compile_iff_wellFormed (statement : Statement) (dialect : Dialect) :
    ((∃ compiled, statement.compile dialect = .ok compiled) ↔ statement.WellFormed) ∧
      ∀ error, statement.compile dialect = .error error → error.isMissingContext := by
  rw [← isFinished_draft, compile_eq]
  unfold Draft.IsFinished
  cases statement.draft.failure with
  | none => simp
  | some lack => simp [Error.isMissingContext]

end BoundSql
