import BoundSql.Proofs.Failure.Atomicity
import Mathlib.Data.List.Forall2
/-!
# The wildcard has no alias

The name and the alias of a column can be changed one after the other, in any order.  Whatever
is done to it, the column `*` has no alias, and no alias is empty.  A list of columns in
shorthand never asks for anything else, so it is never refused.
-/

namespace BoundSql

open Editing

/-! ### Columns -/

namespace Column

/-- What holds of a column in every state. -/
structure IsSound (column : Column) : Prop where
  wildcard : column.name = wildcard → column.aliasName = none
  nonempty : column.aliasName ≠ some ""

theorem isSound_of_plain {column : Column} (plain : column.aliasName = none) :
    column.IsSound where
  wildcard _ := plain
  nonempty := by simp [plain]

theorem IsSound.setName {column : Column} (sound : column.IsSound) (name : String) :
    (column.setName name).IsSound := by
  by_cases wild : name = BoundSql.wildcard
  · exact isSound_of_plain (by simp [Column.setName, wild])
  · refine ⟨fun same => absurd same wild, ?_⟩
    rw [Column.setName, if_neg (by simpa using wild)]
    exact sound.nonempty

theorem setAlias_keeps (aliasName : String) : (setAlias aliasName).Keeps IsSound := by
  intro column sound
  rw [setAlias, current_bind]
  split
  · exact isSound_of_plain rfl
  · next given =>
    split
    · exact sound
    · next named =>
      have other : column.name ≠ BoundSql.wildcard := by simpa [isWildcard] using named
      refine ⟨fun same => absurd same other, ?_⟩
      rintro ⟨⟩
      exact given rfl

theorem isSound_of_setAlias {plain column : Column} {aliasName : String}
    (bare : plain.aliasName = none) (given : (setAlias aliasName plain).outcome = .ok column) :
    column.IsSound :=
  (setAlias_keeps aliasName).outcome (isSound_of_plain bare) given

end Column

theorem ColumnEdit.run_keeps (edit : ColumnEdit) : edit.run.Keeps Column.IsSound := by
  cases edit with
  | setName name => exact keeps_done fun _ sound => sound.setName name
  | setAlias aliasName => exact (Column.setAlias_keeps aliasName).returning _
  | setTable table => exact keeps_done fun _ sound => ⟨sound.wildcard, sound.nonempty⟩

/-- The ways in which a column comes into being. -/
inductive ColumnOrigin where
  /-- It is spelled out, with a table or without one, and perhaps given an alias. -/
  | spelled (spelling : ColumnSpelling)
  /-- It is meant by a name, where `context` is the table at hand. -/
  | bare (context : Option Table) (name : String)
  /-- It is meant by a shorthand, where `context` is the table at hand. -/
  | short (context : Option Table) (shorthand : Shorthand)

/-- The column, unless its alias is refused. -/
def ColumnOrigin.column : ColumnOrigin → Except Error Column
  | .spelled spelling => spelling.column
  | .bare context name => .ok ((Reference.bare name).resolve context)
  | .short context shorthand => shorthand.build context

theorem ColumnSpelling.column_isSound {spelling : ColumnSpelling} {column : Column}
    (built : spelling.column = .ok column) : column.IsSound := by
  rw [ColumnSpelling.column] at built
  split at built
  · cases built
    exact Column.isSound_of_plain rfl
  · exact Column.isSound_of_setAlias rfl built

theorem Shorthand.build_isSound {context : Option Table} {shorthand : Shorthand}
    {column : Column} (built : shorthand.build context = .ok column) : column.IsSound := by
  rw [Shorthand.build] at built
  split at built
  · cases built
    exact Column.isSound_of_plain rfl
  · split at built
    · cases built
      exact Column.isSound_of_plain rfl
    · exact Column.isSound_of_setAlias rfl built

theorem ColumnOrigin.column_isSound {origin : ColumnOrigin} {column : Column}
    (built : origin.column = .ok column) : column.IsSound := by
  cases origin with
  | spelled spelling => exact ColumnSpelling.column_isSound built
  | bare context name =>
    cases built
    exact Column.isSound_of_plain rfl
  | short context shorthand => exact Shorthand.build_isSound built

/-- What is done with a column. -/
inductive ColumnStep where
  /-- It is edited, and stays as it is where the edit fails. -/
  | edited (edit : ColumnEdit)
  /-- It is given to a statement, where `context` is the table at hand. -/
  | given (context : Option Table)

namespace ColumnStep

def run : ColumnStep → Column → Column
  | .edited edit, column => (edit.run column).state
  | .given context, column => (Reference.column column).resolve context

/-- The column after steps one after the other. -/
def runAll (steps : List ColumnStep) (column : Column) : Column :=
  steps.foldl (fun column step => step.run column) column

theorem run_isSound (step : ColumnStep) {column : Column} (sound : column.IsSound) :
    (step.run column).IsSound := by
  cases step with
  | edited edit => exact edit.run_keeps column sound
  | given context => exact sound

theorem runAll_isSound (steps : List ColumnStep) {column : Column} (sound : column.IsSound) :
    (runAll steps column).IsSound := by
  induction steps generalizing column with
  | nil => exact sound
  | cons step rest ih => exact ih (step.run_isSound sound)

end ColumnStep

/-! ### Lists of columns -/

namespace Shorthand

/-- A column is what a shorthand stands for, where `context` is the table at hand. -/
structure Gives (context : Option Table) (shorthand : Shorthand) (column : Column) : Prop where
  name : column.name = shorthand.value
  table : column.table = context
  aliasName : ∀ text, column.aliasName = some text ↔
    shorthand.key = some text ∧ text ≠ "" ∧ (∃ char ∈ text.toList, ¬ char.isDigit) ∧
      shorthand.value ≠ wildcard

theorem alias?_eq_some_iff {shorthand : Shorthand} {text : String} :
    shorthand.alias? = some text ↔
      shorthand.key = some text ∧ text ≠ "" ∧ ∃ char ∈ text.toList, ¬ char.isDigit := by
  simp [alias?, Option.filter_eq_some_iff]

theorem gives_column (context : Option Table) (shorthand : Shorthand) :
    shorthand.Gives context (shorthand.column context) := by
  refine ⟨rfl, rfl, fun text => ?_⟩
  rw [column]
  by_cases wild : shorthand.value = wildcard
  · simp [wild]
  · rw [if_neg (by simpa using wild), alias?_eq_some_iff]
    simp [wild]

theorem gives_columns (context : Option Table) (shorthands : List Shorthand) :
    List.Forall₂ (Gives context) shorthands (shorthands.map (column context)) := by
  rw [List.forall₂_map_right_iff, List.forall₂_same]
  exact fun shorthand _ => shorthand.gives_column context

end Shorthand

/-- The wildcard is never aliased.  Whatever is done with a column, it has no alias where its
name is `*`, and no empty one.  So a list in shorthand always gives its columns, each with the
alias that is its key unless the key is empty or a mere number or the column is `*`; and no
request for a join of a table is refused. -/
theorem wildcard_is_never_aliased :
    (∀ (origin : ColumnOrigin) (column : Column), origin.column = .ok column →
      ∀ steps, (ColumnStep.runAll steps column).IsSound) ∧
    (∀ (context : Option Table) (shorthands : List Shorthand),
      ∃ columns, Shorthand.buildAll context shorthands = .ok columns ∧
        List.Forall₂ (Shorthand.Gives context) shorthands columns) ∧
    (∀ (select : Select) (shorthands : List Shorthand),
      ∃ columns, (Select.replaceColumns shorthands).Leads select ()
          { select with columns := some columns } ∧
        List.Forall₂ (Shorthand.Gives select.table) shorthands columns) ∧
    (∀ (table : Table) (own referred : Reference) (columns : List String) (joinType : JoinType),
      (Select.join table own referred columns joinType).Succeeds) ∧
    ∀ (table : Table) (columns : List String), (Select.crossJoin table columns).Succeeds := by
  refine ⟨fun origin column built steps => ?_, fun context shorthands => ?_,
    fun select shorthands => ?_, Select.join_succeeds, Select.crossJoin_succeeds⟩
  · exact ColumnStep.runAll_isSound steps (ColumnOrigin.column_isSound built)
  · exact ⟨_, Shorthand.buildAll_eq context shorthands, Shorthand.gives_columns _ _⟩
  · refine ⟨_, ?_, Shorthand.gives_columns _ _⟩
    rw [Select.replaceColumns_eq]
    exact ⟨rfl, rfl⟩

/-- A column that loses its alias with its name, and is refused another. -/
theorem wildcard_is_never_aliased_renamed :
    let steps : List ColumnStep := [.edited (.setName "*"), .edited (.setAlias "all")]
    ∃ column, ColumnSpelling.column { name := "id", aliasName := some "key" } = .ok column ∧
      column.aliasName = some "key" ∧ (ColumnStep.runAll steps column).IsSound :=
  ⟨_, rfl, rfl, wildcard_is_never_aliased.1
    (.spelled { name := "id", aliasName := some "key" }) _ rfl _⟩

end BoundSql
