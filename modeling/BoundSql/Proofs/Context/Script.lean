import BoundSql.Proofs.Context.Additions
import BoundSql.Proofs.Context.Coherence
/-!
# Bare names belong to the current table

In every state that a run of edits reaches, the conditions of a statement belong to its
table at that time, and so do the bare names that are given to them later.
-/

namespace BoundSql

open Editing

/-- A new SELECT, UPDATE or DELETE, and edits that put no condition in place of another. -/
inductive Script.IsFresh : Script → Prop
  | select (table : Option Table) {edits : List SelectEdit}
      (replaces : SelectEdit.replaceNothing edits) :
      IsFresh (.select (SelectArgument.start table) edits)
  | update (table : Table) {edits : List UpdateEdit}
      (replaces : ∀ edit ∈ edits, edit.replacesNothing) : IsFresh (.update { table } edits)
  | delete (table : Table) {edits : List DeleteEdit}
      (replaces : ∀ edit ∈ edits, edit.replacesNothing) : IsFresh (.delete { table } edits)

namespace Statement

/-- The conditions that the statement hands out to be edited, those of HAVING under a
conjunction.  Each stands with the table of the SELECT, UPDATE or DELETE that hands it out.
What is not there yet comes into being. -/
def handedOut (conjunction : Conjunction) : Statement → List (Option Table × Condition)
  | .select statement => statement.flattened.flatMap fun part =>
    [part.link, part.filterOrNew, part.havingUnder conjunction].map (part.table, ·)
  | .update statement => [(some statement.table, statement.filterOrNew)]
  | .delete statement => [(some statement.table, statement.filterOrNew)]
  | .insert _ | .combination _ | .difference _ => []

/-- Bare names that are given to a condition at any depth belong to the table of the SELECT,
UPDATE or DELETE that hands it out: each means a column of this table, and edits that add
clauses leave them in the condition with these columns, also in new subconditions. -/
def ResolvesBareNames (statement : Statement) : Prop :=
  ∀ conjunction, ∀ handed ∈ statement.handedOut conjunction,
    ∀ part ∈ handed.2.withNested,
      (∀ name, part.resolve (.bare name) = { name, table := handed.1 }) ∧
      ∀ policy edits final, ConditionEdit.AddAll handed.1 edits part final →
        ∃ replies, (ConditionEdit.runAll policy edits).Leads part replies final

theorem IsCoherent.resolvesBareNames {statement : Statement}
    (coherent : statement.IsCoherent) : statement.ResolvesBareNames := by
  intro conjunction
  suffices bound : ∀ handed ∈ statement.handedOut conjunction,
      handed.2.IsBoundTo handed.1 by
    intro handed mem part within
    have table := bound handed mem part within
    refine ⟨fun name => ?_, fun policy edits final adds => adds.leads policy table⟩
    rw [Condition.resolve, Reference.resolve, table]
  cases statement with
  | select statement =>
    simp only [handedOut, List.forall_mem_flatMap, List.forall_mem_map,
      List.forall_mem_cons]
    intro part mem
    have bound := coherent part mem
    simp only [Select.conditions, List.forall_mem_cons, List.forall_mem_append,
      Option.mem_toList] at bound
    obtain ⟨link, filter, having⟩ := bound
    exact ⟨link, Condition.getD_isBoundTo filter,
      (Condition.getD_isBoundTo having).congr rfl rfl, by simp⟩
  | update | delete =>
    simp only [handedOut, List.forall_mem_singleton]
    exact Condition.getD_isBoundTo coherent
  | insert | combination | difference => simp [handedOut]

end Statement

theorem SelectEdit.replacesNothing_of_mem {edits : List SelectEdit}
    (replaces : SelectEdit.replaceNothing edits) :
    ∀ edit ∈ edits, edit.replacesNothing := by
  induction edits with
  | nil => simp
  | cons edit rest ih =>
    obtain ⟨first, others⟩ := Bool.and_eq_true_iff.mp replaces
    exact List.forall_mem_cons.mpr ⟨first, ih others⟩

/-- A run reaches only states in which the conditions of the statement belong to its
table. -/
theorem Script.IsFresh.run_isCoherent {script : Script} (fresh : script.IsFresh) :
    ∃ final steps, (script.run .proceed).result = .ok (final, steps) ∧
      ∀ statement ∈ final :: steps.map Step.after, statement.IsCoherent := by
  cases fresh with
  | select table replaces =>
    exact traceFrom_keeps Statement.IsCoherent
      (fun edit mem =>
        SelectEdit.run_keeps .proceed edit (SelectEdit.replacesNothing_of_mem replaces edit mem))
      (Select.start_isCoherent table)
  | update table replaces =>
    refine traceFrom_keeps Statement.IsCoherent
      (fun edit mem => UpdateEdit.run_keeps .proceed edit (replaces edit mem)) ?_
    rintro _ ⟨⟩
  | delete table replaces =>
    refine traceFrom_keeps Statement.IsCoherent
      (fun edit mem => DeleteEdit.run_keeps .proceed edit (replaces edit mem)) ?_
    rintro _ ⟨⟩

/-- A SELECT that is built without putting a condition in place of another is joined on the
columns of its own table. -/
theorem Select.addJoin_leads {argument : SelectArgument} {child : Select} {table : Table}
    (replaces : argument.replacesNothing) (built : argument.select.result = .ok child)
    (named : child.table = some table) (select : Select)
    (fresh : select.joinIndex? table.name = none) (own : Reference) (name : String) :
    ∃ join : Select, (Select.addJoin child own (.bare name)).Leads select select.joins.length
        { select with joins := select.joins ++ [join] } ∧
      join.table = some table ∧
      join.link.comparisons = child.link.comparisons ++
        [{ subject := { name, table := some table }, relation := .equals,
           target := .column (select.resolve own) }] := by
  have bound : child.link.table = some table :=
    (Select.isCoherent_iff.mp (argument.select_isCoherent replaces built)).1.table_eq.trans named
  let join := Select.linkTo { child with joinType := some (child.joinType.getD .plain) }
    (.bare name) (select.resolve own)
  refine ⟨join, (leads_current select).bind ?_, named, ?_⟩
  · split
    · next missing => cases named.symm.trans missing
    · next other found =>
      obtain rfl := Option.some.inj (named.symm.trans found)
      rw [fresh]
      exact ⟨rfl, rfl⟩
  · show child.link.comparisons ++ [{ subject := { name, table := child.link.table }, .. }] = _
    rw [bound]

theorem Select.clauses_setTable (select : Select) (table : Table) :
    ((select.setTable table).conditions.flatMap Condition.withNested).map Condition.clauses =
      (select.conditions.flatMap Condition.withNested).map Condition.clauses := by
  simp only [conditions, setTable, List.flatMap_cons, List.flatMap_append, List.map_append,
    Condition.clauses_rebind, Condition.clauses_map_rebind]

/-- The conditions of a statement belong to its table.  Every run of edits on a new SELECT,
UPDATE or DELETE comes to its end, and reaches only states in which each condition of the
statement belongs to its current table, with all its subconditions, and each condition of
a join to the table of the join.  A state in the midst of an edit that carries others is one
that the edit reaches with fewer of them.  Bare names that are given later to a condition that
the statement hands out, or to a SELECT that is joined, belong to its table, too, and clauses
are left there with the columns of this table.  Another table changes no clause that is already
there, and nothing else of the statement. -/
theorem conditions_belong_to_current_table :
    (∀ script : Script, script.IsFresh →
      ∃ final steps, (script.run .proceed).result = .ok (final, steps) ∧
        ∀ statement ∈ final :: steps.map Step.after,
          statement.IsCoherent ∧ statement.ResolvesBareNames) ∧
    (∀ (argument : SelectArgument) (child select : Select) (table : Table) (own : Reference)
        (name : String), argument.replacesNothing → argument.select.result = .ok child →
      child.table = some table → select.joinIndex? table.name = none →
      ∃ join : Select, (Select.addJoin child own (.bare name)).Leads select
          select.joins.length { select with joins := select.joins ++ [join] } ∧
        join.table = some table ∧
        join.link.comparisons = child.link.comparisons ++
          [{ subject := { name, table := some table }, relation := .equals,
             target := .column (select.resolve own) }]) ∧
    (∀ (select : Select) (table : Table),
      ((select.setTable table).conditions.flatMap Condition.withNested).map
          Condition.clauses =
        (select.conditions.flatMap Condition.withNested).map Condition.clauses ∧
      { select.setTable table with
        table := select.table, link := select.link, filter := select.filter,
        having := select.having } = select) ∧
    (∀ (update : Update) (table : Table),
      ((update.setTable table).filter.toList.flatMap Condition.withNested).map
          Condition.clauses =
        (update.filter.toList.flatMap Condition.withNested).map Condition.clauses ∧
      { update.setTable table with table := update.table, filter := update.filter } =
        update) ∧
    ∀ (delete : Delete) (table : Table),
      ((delete.setTable table).filter.toList.flatMap Condition.withNested).map
          Condition.clauses =
        (delete.filter.toList.flatMap Condition.withNested).map Condition.clauses ∧
      { delete.setTable table with table := delete.table, filter := delete.filter } =
        delete := by
  refine ⟨fun script fresh => ?_, ?_, ?_, ?_, ?_⟩
  · obtain ⟨final, steps, runs, reaches⟩ := fresh.run_isCoherent
    exact ⟨final, steps, runs, fun statement mem =>
      ⟨reaches statement mem, (reaches statement mem).resolvesBareNames⟩⟩
  · intro argument child select table own name replaces built named fresh
    exact Select.addJoin_leads replaces built named select fresh own name
  · exact fun select table => ⟨select.clauses_setTable table, by cases select; rfl⟩
  · exact fun update table => ⟨Condition.clauses_map_rebind _ _, rfl⟩
  · exact fun delete table => ⟨Condition.clauses_map_rebind _ _, rfl⟩

/-- A SELECT that gets another table after a subcondition, and a clause afterwards. -/
theorem conditions_belong_to_current_table_of_user :
    (∃ select steps,
      ((Script.select (SelectArgument.start (some { name := "user" }))
        [.editFilter [.addSubcondition .or []], .setTable { name := "news" },
          .editFilter [.addNullCheck (.bare "id") true]]).run .proceed).result =
        .ok (.select select, steps) ∧
      (∀ statement ∈ .select select :: steps.map Step.after,
        statement.IsCoherent ∧ statement.ResolvesBareNames) ∧
      ∃ replies, (ConditionEdit.runAll .proceed [.addBit (.bare "seen") (.bool true)]).Leads
        select.filterOrNew replies
        { select.filterOrNew with
          bits := [{ subject := { name := "seen", table := some { name := "news" } },
                     value := .bool true }] }) ∧
    ∃ join : Select,
      (Select.addJoin (.ofTable { name := "news" }) (.bare "id") (.bare "author")).Leads
        (.ofTable { name := "user" }) 0
        { Select.ofTable { name := "user" } with joins := [join] } ∧
      join.table = some { name := "news" } ∧
      join.link.comparisons =
        [{ subject := { name := "author", table := some { name := "news" } },
           relation := .equals,
           target := .column { name := "id", table := some { name := "user" } } }] := by
  obtain ⟨final, steps, runs, reaches⟩ := conditions_belong_to_current_table.1
    (.select (SelectArgument.start (some { name := "user" }))
      [.editFilter [.addSubcondition .or []], .setTable { name := "news" },
        .editFilter [.addNullCheck (.bare "id") true]]) (.select _ rfl)
  refine ⟨?_, conditions_belong_to_current_table.2.1 ⟨some { name := "news" }, []⟩
    (.ofTable { name := "news" }) (.ofTable { name := "user" }) { name := "news" }
    (.bare "id") "author" rfl rfl rfl rfl⟩
  cases runs
  refine ⟨_, _, rfl, reaches, ?_⟩
  have resolves := (reaches _ List.mem_cons_self).2 .and
  have filter := resolves _ (List.mem_cons_of_mem _ List.mem_cons_self) _
    (Condition.mem_withNested _)
  exact filter.2 _ _ _ (.cons (.bit _ _ (.bare "seen")) (.nil _))

end BoundSql
