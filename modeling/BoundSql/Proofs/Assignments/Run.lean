import BoundSql.Proofs.Assignments.Ordered
import BoundSql.Proofs.Assignments.Written
import BoundSql.Proofs.Editing
/-!
# Assignments from the edits to the bindings

A run of edits assigns values, some of them to names that have a value already, while the
table to which bare names belong changes.  What is bound in the end is the ordered map of
these assignments.
-/

namespace BoundSql

open Editing

/-- The edits of an INSERT or UPDATE that assign values, or set the table to which bare names
belong. -/
inductive AssignmentEdit where
  | set (column : ColumnArgument) (value : Value)
  | setAll (values : List (ColumnArgument × Value))
  | setTable (table : Table)

namespace AssignmentEdit

def onInsert : AssignmentEdit → InsertEdit
  | .set column value => .set column value
  | .setAll values => .setAll values
  | .setTable table => .setTable table

def onUpdate : AssignmentEdit → UpdateEdit
  | .set column value => .set column value
  | .setAll values => .setAll values
  | .setTable table => .setTable table

/-- The assignment to a column that is named while a table is at hand. -/
def assignmentIn (table : Table) (reference : Reference) (value : Value) : Assignment where
  column := reference.resolve (some table)
  value

/-- What the edit assigns while a table is at hand.  It assigns nothing if one of its columns
cannot have the alias that it is spelled with. -/
def given (table : Table) : AssignmentEdit → List Assignment
  | .set column value =>
    column.reference.toOption.toList.map fun reference => assignmentIn table reference value
  | .setAll values =>
    ((ColumnArgument.assignments values).toOption.getD []).map fun (reference, value) =>
      assignmentIn table reference value
  | .setTable _ => []

def tableAfter (table : Table) : AssignmentEdit → Table
  | .setTable other => other
  | .set .. | .setAll _ => table

/-- All that is assigned in a run, in order, from a table on. -/
def history (table : Table) : List AssignmentEdit → List Assignment
  | [] => []
  | edit :: rest => edit.given table ++ history (edit.tableAfter table) rest

theorem setAll_insert (insert : Insert) (values : List (Reference × Value)) :
    insert.setAll values =
      { insert with
        assignments := Assignment.assignAll
          (values.map fun (reference, value) => assignmentIn insert.table reference value)
          insert.assignments } := by
  induction values generalizing insert with
  | nil => rfl
  | cons first rest ih => exact ih (insert.set first.1 first.2)

theorem setAll_update (update : Update) (values : List (Reference × Value)) :
    update.setAll values =
      { update with
        assignments := Assignment.assignAll
          (values.map fun (reference, value) => assignmentIn update.table reference value)
          update.assignments } := by
  induction values generalizing update with
  | nil => rfl
  | cons first rest ih => exact ih (update.set first.1 first.2)

theorem state_run_onInsert (policy : OnFailure) (edit : AssignmentEdit) (insert : Insert) :
    (edit.onInsert.run policy insert).state =
      { insert with
        table := edit.tableAfter insert.table
        assignments := Assignment.assignAll (edit.given insert.table) insert.assignments } := by
  cases edit with
  | set column value =>
    simp only [onInsert, InsertEdit.run, given]
    cases column.reference <;> rfl
  | setAll values =>
    simp only [onInsert, InsertEdit.run, given]
    cases ColumnArgument.assignments values with
    | error error => rfl
    | ok values => exact setAll_insert insert values
  | setTable table =>
    simp only [onInsert, InsertEdit.run]
    rfl

theorem state_run_onUpdate (policy : OnFailure) (edit : AssignmentEdit) (update : Update) :
    ∃ filter, (update.filter = none → filter = none) ∧
      (edit.onUpdate.run policy update).state =
        { update with
          table := edit.tableAfter update.table
          assignments := Assignment.assignAll (edit.given update.table) update.assignments
          filter } := by
  cases edit with
  | set column value =>
    refine ⟨update.filter, id, ?_⟩
    simp only [onUpdate, UpdateEdit.run, given]
    cases column.reference <;> rfl
  | setAll values =>
    refine ⟨update.filter, id, ?_⟩
    simp only [onUpdate, UpdateEdit.run, given]
    cases ColumnArgument.assignments values with
    | error error => rfl
    | ok values => exact setAll_update update values
  | setTable table =>
    refine ⟨update.filter.map (Condition.rebind (some table)), by simp +contextual, ?_⟩
    simp only [onUpdate, UpdateEdit.run]
    rfl

theorem foldl_onInsert (edits : List AssignmentEdit) (start : Insert) :
    (edits.map onInsert).foldl (fun insert edit => (edit.run .proceed insert).state) start =
      { start with
        table := edits.foldl tableAfter start.table
        assignments := Assignment.assignAll (history start.table edits) start.assignments } := by
  induction edits generalizing start with
  | nil => rfl
  | cons edit rest ih =>
    rw [List.map_cons, List.foldl_cons, ih, state_run_onInsert, List.foldl_cons, history,
      Assignment.assignAll_append]

theorem foldl_onUpdate (edits : List AssignmentEdit) (start : Update) :
    ∃ filter, (start.filter = none → filter = none) ∧
      (edits.map onUpdate).foldl (fun update edit => (edit.run .proceed update).state) start =
        { start with
          table := edits.foldl tableAfter start.table
          assignments := Assignment.assignAll (history start.table edits) start.assignments
          filter } := by
  induction edits generalizing start with
  | nil => exact ⟨start.filter, id, rfl⟩
  | cons edit rest ih =>
    obtain ⟨filter, free, first⟩ := state_run_onUpdate .proceed edit start
    obtain ⟨others, freed, further⟩ := ih (edit.onUpdate.run .proceed start).state
    rw [first] at freed further
    refine ⟨others, fun none => freed (free none), ?_⟩
    rw [List.map_cons, List.foldl_cons, first, further, List.foldl_cons, history,
      Assignment.assignAll_append]

end AssignmentEdit

open AssignmentEdit in
/-- The assignments of an INSERT or UPDATE are an ordered map as far as to what is bound.  A run
of edits comes to its end and changes nothing but the table and the assignments, which are then
the ordered map of all that was assigned.  If something was assigned, and the table has a
name, then the statement is written with the columns in this order, and each is paired with
the placeholder of its number, to which its value is bound in normal form.  An UPDATE goes on
after its assignments with the condition and the limit that it had. -/
theorem assignments_are_bound_in_order (edits : List AssignmentEdit) :
    (∀ start : Insert, (start.assignments.map (·.column.name)).Nodup →
      ∃ final steps,
        ((Script.insert start (edits.map onInsert)).run .proceed).result =
          .ok (.insert final, steps) ∧
        final = { start with
          table := edits.foldl tableAfter start.table, assignments := final.assignments } ∧
        Assignment.IsMapOf (start.assignments ++ history start.table edits)
          final.assignments ∧
        (final.table.name ≠ "" → start.assignments ++ history start.table edits ≠ [] →
          ∀ dialect, ∃ target, final.table.text dialect = .ok target ∧
            (Statement.insert final).compile dialect = .ok
              { sql := final.numberedText dialect target
                parameters := Assignment.parameters final.assignments })) ∧
    (∀ start : Update, (start.assignments.map (·.column.name)).Nodup →
      ∃ final steps,
        ((Script.update start (edits.map onUpdate)).run .proceed).result =
          .ok (.update final, steps) ∧
        final = { start with
          table := edits.foldl tableAfter start.table, assignments := final.assignments,
          filter := final.filter } ∧
        Assignment.IsMapOf (start.assignments ++ history start.table edits)
          final.assignments ∧
        (final.table.name ≠ "" → start.assignments ++ history start.table edits ≠ [] →
          ∀ dialect, ∃ target, final.table.text dialect = .ok target ∧
            (Statement.update final).compile dialect =
              (match (final.rest dialect).outcome (Assignment.parameters final.assignments) with
              | (parameters, .ok rest) =>
                .ok { sql := final.numberedText dialect target rest, parameters }
              | (_, .error error) => .error error) ∧
            (start.filter = none → start.limit = none →
              (Statement.update final).compile dialect = .ok
                { sql := final.numberedText dialect target ""
                  parameters := Assignment.parameters final.assignments }))) := by
  constructor
  · intro start distinct
    obtain ⟨steps, run⟩ := traceFrom_foldl Statement.insert (InsertEdit.run .proceed)
      (edits.map onInsert) start
    rw [foldl_onInsert] at run
    have map := (Assignment.IsMapOf.of_nodup distinct).assignAll (history start.table edits)
    refine ⟨_, steps, run, rfl, map, fun named assigned dialect => ?_⟩
    obtain ⟨target, written⟩ := Table.text_of_ne named dialect
    exact ⟨target, written, Insert.compile_eq_ok (map.ne_nil assigned) written⟩
  · intro start distinct
    obtain ⟨steps, run⟩ := traceFrom_foldl Statement.update (UpdateEdit.run .proceed)
      (edits.map onUpdate) start
    obtain ⟨filter, free, final⟩ := foldl_onUpdate edits start
    rw [final] at run
    have map := (Assignment.IsMapOf.of_nodup distinct).assignAll (history start.table edits)
    refine ⟨_, steps, run, rfl, map, fun named assigned dialect => ?_⟩
    obtain ⟨target, written⟩ := Table.text_of_ne named dialect
    have assigns := map.ne_nil assigned
    exact ⟨target, written, Update.compile_eq assigns written, fun unrestricted unlimited =>
      Update.compile_eq_ok assigns written (free unrestricted) unlimited⟩

open AssignmentEdit in
/-- The second assignment to a name keeps its place, and a new name belongs to the new table.
A column `*` with an alias is not assigned. -/
theorem assignments_are_bound_in_order_of_news :
    let edits : List AssignmentEdit :=
      [.set (.bare "id") (.integer 1), .setTable { name := "news" },
        .setAll [(.bare "title", .text ""), (.bare "id", .bool true)],
        .set (.spelled { name := "*", aliasName := some "all" }) .null]
    (∃ final steps,
      ((Script.insert { table := { name := "user" } } (edits.map onInsert)).run .proceed).result =
        .ok (.insert final, steps) ∧
      (Statement.insert final).compile .mysql = .ok
        { sql := "INSERT INTO `news` (`user`.`id`, `news`.`title`) VALUES (:v1, :v2)"
          parameters := { next := 3, entries := [(":v1", .integer 1), (":v2", .null)] } }) ∧
    ∃ final steps,
      ((Script.update { table := { name := "user" } } (edits.map onUpdate)).run .proceed).result =
        .ok (.update final, steps) ∧
      (Statement.update final).compile .mysql = .ok
        { sql := "UPDATE `news` SET `user`.`id` = :v1, `news`.`title` = :v2"
          parameters := { next := 3, entries := [(":v1", .integer 1), (":v2", .null)] } } := by
  intro edits
  obtain ⟨inserts, updates⟩ := assignments_are_bound_in_order edits
  constructor
  · obtain ⟨final, steps, run, -, -, compiles⟩ :=
      inserts { table := { name := "user" } } List.nodup_nil
    refine ⟨final, steps, run, ?_⟩
    cases run
    obtain ⟨target, written, compiles⟩ := compiles (by decide) (by decide) .mysql
    cases written
    refine compiles.trans (congrArg Except.ok (congrArg₂ Compiled.mk ?_ rfl))
    decide +kernel
  · obtain ⟨final, steps, run, -, -, compiles⟩ :=
      updates { table := { name := "user" } } List.nodup_nil
    refine ⟨final, steps, run, ?_⟩
    cases run
    obtain ⟨target, written, -, compiles⟩ := compiles (by decide) (by decide) .mysql
    cases written
    refine (compiles rfl rfl).trans (congrArg Except.ok (congrArg₂ Compiled.mk ?_ rfl))
    decide +kernel

end BoundSql
