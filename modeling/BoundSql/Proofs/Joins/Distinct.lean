import BoundSql.Proofs.Joins.Basic
/-!
# Joins have distinct names

A join is registered once, but it can be renamed afterwards.  The names of the joins are
distinct as long as no join is given the name of another.
-/

namespace BoundSql

open Editing

namespace SelectEdit

/-- The name of the join that an edit leads to. -/
def joinedName? : SelectEdit → Option String
  | .join table .. => some table.name
  | .crossJoin table .. => some table.name
  | .addJoin child .. => child.select.result.toOption.bind Select.tableName?
  | _ => none

/-- The edits of the join that an edit leads to. -/
def joinEdits : SelectEdit → List SelectEdit
  | .join _ _ _ _ _ edits => edits
  | .crossJoin _ _ edits => edits
  | .addJoin _ _ _ edits => edits
  | _ => []

/-- If the edit leads to a join, the join is not given the name of another join of the
SELECT. -/
def RenamesApart (edit : SelectEdit) (select : Select) : Prop :=
  ∀ {reply final}, (edit.run .proceed).Leads select reply final →
    ∀ table, .setTable table ∈ edit.joinEdits →
      edit.joinedName? = some table.name ∨ some table.name ∉ select.joinNames

/-- No edit of a run gives a join the name of another. -/
def RenameApart : List SelectEdit → Select → Prop
  | [], _ => True
  | edit :: rest, select =>
    edit.RenamesApart select ∧ RenameApart rest (edit.run .proceed select).state

end SelectEdit

/-- What an edit does to the table and the joins of a SELECT. -/
inductive SelectEdit.Acts (policy : OnFailure) (edit : SelectEdit) (select : Select) :
    Select → Prop
  | elsewhere {after : Select} (joins : after.joins = select.joins)
      (table : after.table = select.table) : Acts policy edit select after
  | table {table : Table} (sets : edit = .setTable table) :
      Acts policy edit select (select.setTable table)
  | join {register : Editing Select Nat} {name : String}
      (named : edit.joinedName? = some name) (registers : Select.Registers register name)
      (atomic : register.IsAtomic) :
      Acts policy edit select
        ((do
          let index ← register
          let replies ← Select.withinJoin index (SelectEdit.runAll policy edit.joinEdits)
          return Reply.within replies : Editing Select Reply) select).state

theorem SelectEdit.run_acts (policy : OnFailure) (edit : SelectEdit) (select : Select) :
    edit.Acts policy select (edit.run policy select).state := by
  cases edit with
  | setTable =>
    simp only [SelectEdit.run]
    exact .table rfl
  | setComment | setColumns | addValueColumn | addFunctionColumn | setCount | setDistinct
    | setJoinType | setWindow | setRowCount | setStart =>
    simp only [SelectEdit.run, Select.replaceColumns_eq]
    exact .elsewhere rfl rfl
  | addQueryColumn | addGroupBy | orderRows =>
    simp only [SelectEdit.run]
    exact Checks.bind_satisfies (fun _ => rfl) (.elsewhere rfl rfl) fun _ _ =>
      .elsewhere rfl rfl
  | orderRowsNamed =>
    simp only [SelectEdit.run]
    exact Checks.bind_satisfies (fun _ => rfl) (.elsewhere rfl rfl) fun _ _ =>
      Checks.bind_satisfies (fun _ => rfl) (.elsewhere rfl rfl) fun _ _ => .elsewhere rfl rfl
  | editOn | editFilter | editHaving =>
    simp only [SelectEdit.run, state_bind_pure]
    exact .elsewhere rfl rfl
  | editHavingNamed =>
    simp only [SelectEdit.run]
    refine Checks.bind_satisfies (fun _ => rfl) (.elsewhere rfl rfl) fun _ _ => ?_
    rw [state_bind_pure]
    exact .elsewhere rfl rfl
  | copy =>
    simp only [SelectEdit.run]
    exact Checks.bind_satisfies (fun _ => rfl) (.elsewhere rfl rfl) fun _ _ =>
      Checks.bind_satisfies (fun _ => rfl) (.elsewhere rfl rfl) fun _ _ => .elsewhere rfl rfl
  | listColumns withJoins =>
    cases withJoins <;> simp only [SelectEdit.run] <;>
      exact Checks.bind_satisfies (fun _ => rfl) (.elsewhere rfl rfl) fun _ _ =>
        Checks.bind_satisfies (fun _ => rfl) (.elsewhere rfl rfl) fun _ _ => .elsewhere rfl rfl
  | ask | inspect =>
    simp only [SelectEdit.run]
    exact Checks.bind_satisfies (fun _ => rfl) (.elsewhere rfl rfl) fun _ _ =>
      .elsewhere rfl rfl
  | join table own referred columns joinType edits =>
    simp only [SelectEdit.run]
    refine Checks.bind_satisfies (fun _ => rfl) (.elsewhere rfl rfl) fun own _ =>
      Checks.bind_satisfies (fun _ => rfl) (.elsewhere rfl rfl) fun referred _ => ?_
    exact .join rfl (Select.join_registers table own referred columns joinType)
      (Select.join_succeeds table own referred columns joinType).isAtomic
  | crossJoin table columns edits =>
    simp only [SelectEdit.run]
    exact .join rfl (Select.crossJoin_registers table columns)
      (Select.crossJoin_succeeds table columns).isAtomic
  | addJoin argument own referred edits =>
    simp only [SelectEdit.run]
    refine Checks.bind_satisfies (fun _ => rfl) (.elsewhere rfl rfl) fun child built =>
      Checks.bind_satisfies (fun _ => rfl) (.elsewhere rfl rfl) fun own _ =>
      Checks.bind_satisfies (fun _ => rfl) (.elsewhere rfl rfl) fun referred _ => ?_
    have atomic := Select.addJoin_isAtomic child own referred
    -- A SELECT without a table is refused, and nothing is registered.
    cases named : child.tableName? with
    | none =>
      have fails := Select.addJoin_fails named own referred select
      rw [(bind_of_fails fails _).1, atomic _ _ fails]
      exact .elsewhere rfl rfl
    | some name =>
      refine .join ?_ (Select.addJoin_registers named own referred) atomic
      have result : argument.select.result = .ok child := built.result
      rw [SelectEdit.joinedName?, result]
      exact named

/-- A SELECT keeps its table's name or is given one by an edit that sets the table. -/
theorem SelectEdit.run_keeps_tableName (allowed : Option String → Prop) (policy : OnFailure)
    (edit : SelectEdit)
    (given : ∀ table, edit = .setTable table → allowed (some table.name)) :
    (edit.run policy).Keeps fun select => allowed select.tableName? := by
  intro select holds
  have acts := edit.run_acts policy select
  generalize (edit.run policy select).state = after at acts ⊢
  cases acts with
  | elsewhere _ table =>
    rw [Select.tableName?, table]
    exact holds
  | table sets => exact given _ sets
  | join _ registers atomic =>
    rw [Select.tableName?, registers.table_within atomic]
    exact holds

theorem SelectEdit.runAll_keeps_tableName (allowed : Option String → Prop)
    (policy : OnFailure) {edits : List SelectEdit}
    (given : ∀ table, .setTable table ∈ edits → allowed (some table.name)) :
    (SelectEdit.runAll policy edits).Keeps fun select => allowed select.tableName? := by
  induction edits with
  | nil => exact Checks.keeps fun _ => rfl
  | cons edit rest ih =>
    have first := edit.run_keeps_tableName allowed policy fun table sets =>
      given table (sets ▸ List.mem_cons_self)
    exact first.cons (ih fun table mem => given table (List.mem_cons_of_mem _ mem)) policy

/-- An edit that gives no join the name of another leaves the names of the joins distinct. -/
theorem SelectEdit.run_nodup {edit : SelectEdit} {select : Select}
    (apart : edit.RenamesApart select) (distinct : select.joinNames.Nodup) :
    (edit.run .proceed select).state.joinNames.Nodup := by
  rcases (edit.run .proceed).leads_or_fails select with
    ⟨reply, final, leads⟩ | ⟨error, fails⟩
  · have acts := edit.run_acts .proceed select
    generalize (edit.run .proceed select).state = after at acts ⊢
    cases acts with
    | elsewhere joins _ =>
      rw [Select.joinNames, joins]
      exact distinct
    | table => exact distinct
    | @join register name named registers atomic =>
      refine registers.nodup_within atomic distinct ?_
      refine SelectEdit.runAll_keeps_tableName
        (fun given => given = some name ∨ given ∉ select.joinNames) .proceed
        fun table mem => ?_
      rw [← named]
      exact (apart leads table mem).imp_left Eq.symm
  · rw [(edit.run_leavesNoTrace .proceed).failed select error fails]
    exact distinct

/-- The names of a SELECT's own joins are distinct in every state that a run of edits reaches,
as long as no edit of a join gives it the name of another.  A state in the midst of an edit
that carries others is one that the edit reaches with fewer of them.  A join is itself a
SELECT, whose edits are a run. -/
theorem joinNames_nodup (table : Option Table) (edits : List SelectEdit)
    (apart : SelectEdit.RenameApart edits (SelectArgument.start table)) :
    ∃ final steps,
      ((Script.select (SelectArgument.start table) edits).run .proceed).result =
        .ok (final, steps) ∧
      ∀ statement ∈ final :: steps.map Step.after,
        ∃ reached, statement = .select reached ∧ reached.joinNames.Nodup := by
  have distinct : (SelectArgument.start table).joinNames.Nodup := by
    cases table <;> exact List.nodup_nil
  refine traceFrom_reaches
    (fun edits select =>
      SelectEdit.RenameApart edits select ∧ select.joinNames.Nodup) ?_
    (fun _ select both => ⟨select, rfl, both.2⟩) ⟨apart, distinct⟩
  rintro edit rest select ⟨⟨first, others⟩, distinct⟩
  exact ⟨others, SelectEdit.run_nodup first distinct⟩

/-- Two tables are joined, and the second join is given a third table. -/
theorem joinNames_nodup_of_renamed :
    ∃ final steps,
      ((Script.select (SelectArgument.start (some { name := "user" }))
        [.crossJoin { name := "news" } [] [],
          .crossJoin { name := "book" } [] [.setTable { name := "page" }]]).run
            .proceed).result = .ok (final, steps) ∧
      ∀ statement ∈ final :: steps.map Step.after,
        ∃ reached, statement = .select reached ∧ reached.joinNames.Nodup := by
  refine joinNames_nodup _ _ ⟨?_, ?_, trivial⟩
  · intro reply final _ table mem
    cases mem
  · intro reply final _ table mem
    obtain rfl : table = { name := "page" } := by simpa [SelectEdit.joinEdits] using mem
    exact .inr (by decide)

/-- A join that is given the name of another. -/
theorem joinNames_not_nodup :
    ¬ ∀ (table : Option Table) (edits : List SelectEdit) (reached : Select)
        (steps : List Step),
      ((Script.select (SelectArgument.start table) edits).run .proceed).result =
        .ok (.select reached, steps) → reached.joinNames.Nodup := by
  intro distinct
  have twice := distinct (some { name := "user" })
    [.crossJoin { name := "news" } [] [],
      .crossJoin { name := "book" } [] [.setTable { name := "news" }]] _ _ rfl
  revert twice
  decide

end BoundSql
