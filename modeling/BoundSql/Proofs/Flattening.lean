import BoundSql.Select.Flatten
/-!
# The depth-first list

Each list of what a SELECT and its joins hold together follows one list of SELECTs:
the SELECT itself, and after it all its joins, depth first.
-/

namespace BoundSql.Select

mutual

theorem gather_eq {Item : Type} (own : Select → List Item) :
    (select : Select) → select.gather own = select.flattened.flatMap own
  | { joins, .. } => by
    simp [gather, flattened, allJoins, gatherAll_eq own joins]

theorem gatherAll_eq {Item : Type} (own : Select → List Item) :
    (selects : List Select) → gatherAll own selects = (withAllJoins selects).flatMap own
  | [] => rfl
  | select :: rest => by
    simp [gatherAll, withAllJoins, gather_eq own select, gatherAll_eq own rest, flattened]

end

mutual

/-- All columns are enumerated unless a SELECT on the list has no table. -/
theorem allColumns_eq :
    (select : Select) →
      select.allColumns = do return (← select.flattened.mapM ownColumns).flatten
  | { joins, .. } => by
    simp [allColumns, flattened, allJoins, allColumnsOf_eq joins]

theorem allColumnsOf_eq :
    (selects : List Select) →
      allColumnsOf selects = do return (← (withAllJoins selects).mapM ownColumns).flatten
  | [] => rfl
  | select :: rest => by
    simp [allColumnsOf, withAllJoins, allColumns_eq select, allColumnsOf_eq rest, flattened]

end

/-- The columns of several SELECTs are enumerated exactly if each has a table. -/
theorem mapM_ownColumns_eq_ok (selects : List Select) :
    (∃ columns, selects.mapM ownColumns = .ok columns) ↔
      ∀ select ∈ selects, select.table.isSome := by
  induction selects with
  | nil => exact iff_of_true ⟨[], rfl⟩ (by simp)
  | cons select rest ih =>
    rw [List.forall_mem_cons, ← ih, List.mapM_cons]
    cases introduced : select.table with
    | none =>
      have own : select.ownColumns = .error (.missingContext .enumeratedTable) := by
        simp [ownColumns, introduced]
      simp [own, bind, Except.bind]
    | some table =>
      obtain ⟨columns, own⟩ : ∃ columns, select.ownColumns = .ok columns := by
        simp [ownColumns, introduced]
      cases rest.mapM ownColumns <;> simp [own, bind, Except.bind, pure, Except.pure]

/-- There is one reason why columns are not enumerated. -/
theorem error_of_mapM_ownColumns {selects : List Select} {error : Error}
    (failed : selects.mapM ownColumns = .error error) :
    error = .missingContext .enumeratedTable := by
  induction selects with
  | nil => cases failed
  | cons select rest ih =>
    rw [List.mapM_cons] at failed
    cases own : select.ownColumns with
    | error lacking =>
      have lacks : lacking = .missingContext .enumeratedTable := by
        unfold ownColumns at own
        split at own <;> cases own
        rfl
      rw [own] at failed
      cases failed
      exact lacks
    | ok columns =>
      cases others : rest.mapM ownColumns with
      | error lacking =>
        rw [own, others] at failed
        cases failed
        exact ih others
      | ok columns =>
        rw [own, others] at failed
        cases failed

theorem mapM_ownColumns_eq_ok_iff {selects : List Select} {columns : List (List Column)} :
    selects.mapM ownColumns = .ok columns ↔ selects.map ownColumns = columns.map .ok := by
  induction selects generalizing columns with
  | nil => cases columns <;> simp [pure, Except.pure]
  | cons select rest ih =>
    rw [List.mapM_cons, List.map_cons]
    cases columns with
    | nil =>
      cases select.ownColumns <;> cases rest.mapM ownColumns <;>
        simp [bind, Except.bind, pure, Except.pure]
    | cons first others =>
      rw [List.map_cons, List.cons.injEq, ← ih]
      cases select.ownColumns <;> cases rest.mapM ownColumns <;>
        simp [bind, Except.bind, pure, Except.pure]

end BoundSql.Select
