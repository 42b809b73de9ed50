import BoundSql.Edit.Script
import BoundSql.Proofs.Comments.Edits
/-!
# Comments are inert

No run of edits breaks a comment of any statement.  So a reader that takes the comments
out of what a statement is compiled to finds what it is compiled to without them.
-/

namespace BoundSql

open Editing

/-! ### Statements of each kind -/

namespace Statement

theorem isUnbroken_insert {insert : Insert} :
    (Statement.insert insert).IsUnbroken ↔
      ∀ comment ∈ insert.comment, '\n' ∉ comment.toList := by
  simp [IsUnbroken, supplied, Supplied.areUnbroken_comment]

theorem isUnbroken_update {update : Update} :
    (Statement.update update).IsUnbroken ↔
      (∀ comment ∈ update.comment, '\n' ∉ comment.toList) ∧
        ∀ filter ∈ update.filter, filter.IsUnbroken := by
  simp [IsUnbroken, supplied, Supplied.areUnbroken_comment, Condition.areUnbroken_supplied?]

theorem isUnbroken_delete {delete : Delete} :
    (Statement.delete delete).IsUnbroken ↔
      (∀ comment ∈ delete.comment, '\n' ∉ comment.toList) ∧
        ∀ filter ∈ delete.filter, filter.IsUnbroken := by
  simp [IsUnbroken, supplied, Supplied.areUnbroken_comment, Condition.areUnbroken_supplied?]

theorem isUnbroken_combination {combination : Combination} :
    (Statement.combination combination).IsUnbroken ↔
      (∀ comment ∈ combination.comment, '\n' ∉ comment.toList) ∧
        ∀ member ∈ combination.members, member.IsUnbroken := by
  simp [IsUnbroken, supplied, Supplied.areUnbroken_comment, Select.suppliedAll_eq,
    Select.IsUnbroken, and_comm]

theorem isUnbroken_difference {difference : Difference} :
    (Statement.difference difference).IsUnbroken ↔
      (∀ comment ∈ difference.comment, '\n' ∉ comment.toList) ∧
        difference.first.IsUnbroken ∧ difference.second.IsUnbroken := by
  simp [IsUnbroken, supplied, Supplied.areUnbroken_comment, Select.suppliedAll_eq,
    Select.IsUnbroken, and_comm, and_assoc]

end Statement

/-! ### Edits of statements that change data, and of set operations -/

theorem InsertEdit.run_keepsUnbroken (policy : OnFailure) (edit : InsertEdit) :
    (edit.run policy).Keeps fun insert => (Statement.insert insert).IsUnbroken := by
  simp only [Statement.isUnbroken_insert]
  cases edit with
  | set =>
    simp only [InsertEdit.run]
    exact .check (fun _ => rfl) fun _ => keeps_done fun _ unbroken => unbroken
  | setAll values =>
    simp only [InsertEdit.run]
    refine .check (fun _ => rfl) fun values => keeps_done fun insert unbroken => ?_
    rw [insert.setAll_eq values]
    exact unbroken
  | setTable =>
    simp only [InsertEdit.run]
    exact keeps_done fun _ unbroken => unbroken
  | setComment comment =>
    simp only [InsertEdit.run]
    exact keeps_done fun _ _ => Text.break_notMem_given comment
  | editFilter =>
    simp only [InsertEdit.run]
    exact Checks.keeps fun _ => rfl
  | copy =>
    simp only [InsertEdit.run]
    exact .check (fun _ => rfl) fun _ => .check (fun _ => rfl) fun _ => keeps_pure _
  | ask | inspect =>
    simp only [InsertEdit.run]
    exact .check (fun _ => rfl) fun _ => Checks.keeps fun _ => rfl

theorem UpdateEdit.run_keepsUnbroken (policy : OnFailure) (edit : UpdateEdit) :
    (edit.run policy).Keeps fun update => (Statement.update update).IsUnbroken := by
  simp only [Statement.isUnbroken_update]
  cases edit with
  | set =>
    simp only [UpdateEdit.run]
    exact .check (fun _ => rfl) fun _ => keeps_done fun _ unbroken => unbroken
  | setAll values =>
    simp only [UpdateEdit.run]
    refine .check (fun _ => rfl) fun values => keeps_done fun update unbroken => ?_
    rw [update.setAll_eq values]
    exact unbroken
  | setTable table =>
    simp only [UpdateEdit.run]
    exact keeps_done fun _ unbroken =>
      ⟨unbroken.1, Condition.map_rebind_isUnbroken unbroken.2 _⟩
  | setComment comment =>
    simp only [UpdateEdit.run]
    exact keeps_done fun _ unbroken => ⟨Text.break_notMem_given comment, unbroken.2⟩
  | setLimit =>
    simp only [UpdateEdit.run]
    exact keeps_done fun _ unbroken => unbroken
  | editFilter edits =>
    simp only [UpdateEdit.run]
    exact Condition.keepsUnbroken_within
      (ConditionEdit.runAll_keepsUnbroken policy edits)
      (fun update unbroken => Condition.getD_isUnbroken unbroken.2 _)
      fun update filter unbroken edited => ⟨unbroken.1, by simpa using edited⟩
  | copy =>
    simp only [UpdateEdit.run]
    exact .check (fun _ => rfl) fun _ => .check (fun _ => rfl) fun _ => keeps_pure _
  | ask | inspect =>
    simp only [UpdateEdit.run]
    exact .check (fun _ => rfl) fun _ => Checks.keeps fun _ => rfl

theorem DeleteEdit.run_keepsUnbroken (policy : OnFailure) (edit : DeleteEdit) :
    (edit.run policy).Keeps fun delete => (Statement.delete delete).IsUnbroken := by
  simp only [Statement.isUnbroken_delete]
  cases edit with
  | setTable table =>
    simp only [DeleteEdit.run]
    exact keeps_done fun _ unbroken =>
      ⟨unbroken.1, Condition.map_rebind_isUnbroken unbroken.2 _⟩
  | setComment comment =>
    simp only [DeleteEdit.run]
    exact keeps_done fun _ unbroken => ⟨Text.break_notMem_given comment, unbroken.2⟩
  | setLimit =>
    simp only [DeleteEdit.run]
    exact keeps_done fun _ unbroken => unbroken
  | editFilter edits =>
    simp only [DeleteEdit.run]
    exact Condition.keepsUnbroken_within
      (ConditionEdit.runAll_keepsUnbroken policy edits)
      (fun delete unbroken => Condition.getD_isUnbroken unbroken.2 _)
      fun delete filter unbroken edited => ⟨unbroken.1, by simpa using edited⟩
  | copy =>
    simp only [DeleteEdit.run]
    exact .check (fun _ => rfl) fun _ => .check (fun _ => rfl) fun _ => keeps_pure _
  | ask | inspect =>
    simp only [DeleteEdit.run]
    exact .check (fun _ => rfl) fun _ => Checks.keeps fun _ => rfl

theorem CombinationEdit.run_keepsUnbroken (policy : OnFailure) (edit : CombinationEdit) :
    (edit.run policy).Keeps fun combination =>
      (Statement.combination combination).IsUnbroken := by
  simp only [Statement.isUnbroken_combination]
  cases edit with
  | add argument =>
    simp only [CombinationEdit.run]
    refine Keeps.bind (Checks.keeps fun _ => rfl) fun built =>
      keeps_done fun combination unbroken => ⟨unbroken.1, ?_⟩
    simp only [Combination.add, List.forall_mem_append, List.forall_mem_singleton]
    exact ⟨unbroken.2, argument.select_isUnbroken built.result⟩
  | setComment comment =>
    simp only [CombinationEdit.run]
    exact keeps_done fun _ unbroken => ⟨Text.break_notMem_given comment, unbroken.2⟩
  | editFilter =>
    simp only [CombinationEdit.run]
    exact .check (fun _ => rfl) fun _ => Checks.keeps fun _ => rfl
  | copy =>
    simp only [CombinationEdit.run]
    exact .check (fun _ => rfl) fun _ => .check (fun _ => rfl) fun _ => keeps_pure _
  | ask | inspect =>
    simp only [CombinationEdit.run]
    exact .check (fun _ => rfl) fun _ => Checks.keeps fun _ => rfl

theorem DifferenceEdit.run_keepsUnbroken (policy : OnFailure) (edit : DifferenceEdit) :
    (edit.run policy).Keeps fun difference =>
      (Statement.difference difference).IsUnbroken := by
  simp only [Statement.isUnbroken_difference]
  cases edit with
  | setComment comment =>
    simp only [DifferenceEdit.run]
    exact keeps_done fun _ unbroken => ⟨Text.break_notMem_given comment, unbroken.2⟩
  | editFilter =>
    simp only [DifferenceEdit.run]
    exact Checks.keeps fun _ => rfl
  | copy =>
    simp only [DifferenceEdit.run]
    exact .check (fun _ => rfl) fun _ => .check (fun _ => rfl) fun _ => keeps_pure _
  | ask | inspect =>
    simp only [DifferenceEdit.run]
    exact .check (fun _ => rfl) fun _ => Checks.keeps fun _ => rfl

/-! ### Scripts -/

theorem SelectArgument.selects_areUnbroken {arguments : List SelectArgument}
    {selects : List Select} (built : (SelectArgument.selects arguments).result = .ok selects) :
    ∀ select ∈ selects, select.IsUnbroken := by
  induction arguments generalizing selects with
  | nil =>
    cases built
    simp
  | cons argument rest ih =>
    obtain ⟨first, firstBuilt, built⟩ := Logged.ok_of_bind built
    obtain ⟨others, othersBuilt, same⟩ := Logged.ok_of_bind built
    cases same
    exact List.forall_mem_cons.mpr ⟨argument.select_isUnbroken firstBuilt, ih othersBuilt⟩

/-- A run reaches only states in which every comment is on one line. -/
theorem ScriptArgument.run_isUnbroken {argument : ScriptArgument} {script : Script}
    (built : argument.script.result = .ok script) :
    ∃ final steps, (script.run .proceed).result = .ok (final, steps) ∧
      ∀ statement ∈ final :: steps.map Step.after, statement.IsUnbroken := by
  have bare : ∀ comment ∈ (none : Option String), '\n' ∉ comment.toList := by simp
  have unfiltered : ∀ filter ∈ (none : Option Condition), filter.IsUnbroken := by simp
  cases argument with
  | select table edits =>
    cases built
    exact traceFrom_keeps Statement.IsUnbroken
      (fun edit _ => SelectEdit.run_keepsUnbroken .proceed edit) (Select.start_isUnbroken table)
  | insert table edits =>
    cases built
    exact traceFrom_keeps Statement.IsUnbroken
      (fun edit _ => InsertEdit.run_keepsUnbroken .proceed edit)
      (Statement.isUnbroken_insert.mpr bare)
  | update table edits =>
    cases built
    exact traceFrom_keeps Statement.IsUnbroken
      (fun edit _ => UpdateEdit.run_keepsUnbroken .proceed edit)
      (Statement.isUnbroken_update.mpr ⟨bare, unfiltered⟩)
  | delete table edits =>
    cases built
    exact traceFrom_keeps Statement.IsUnbroken
      (fun edit _ => DeleteEdit.run_keepsUnbroken .proceed edit)
      (Statement.isUnbroken_delete.mpr ⟨bare, unfiltered⟩)
  | combination combiner members edits =>
    obtain ⟨selects, membersBuilt, same⟩ := Logged.ok_of_bind built
    cases same
    exact traceFrom_keeps Statement.IsUnbroken
      (fun edit _ => CombinationEdit.run_keepsUnbroken .proceed edit)
      (Statement.isUnbroken_combination.mpr
        ⟨bare, SelectArgument.selects_areUnbroken membersBuilt⟩)
  | difference first second edits =>
    obtain ⟨minuend, firstBuilt, built⟩ := Logged.ok_of_bind built
    obtain ⟨subtrahend, secondBuilt, same⟩ := Logged.ok_of_bind built
    cases same
    exact traceFrom_keeps Statement.IsUnbroken
      (fun edit _ => DifferenceEdit.run_keepsUnbroken .proceed edit)
      (Statement.isUnbroken_difference.mpr ⟨bare, first.select_isUnbroken firstBuilt,
        second.select_isUnbroken secondBuilt⟩)

/-- Comments are inert.  Every run of edits on a new statement comes to its end.  Each
statement that it reaches is compiled to the same values, or refused with the same error,
as with only its other texts.  The compiled text is the same once everything from two
dashes through the next line break is taken out of it, unless two dashes come from another
text that the statement was given, or from the quotes of the dialect. -/
theorem ScriptArgument.withoutRemarks_compile {dialect : Dialect}
    (quote : dialect.quote ≠ some '-') {argument : ScriptArgument} {script : Script}
    (built : argument.script.result = .ok script) :
    ∃ final steps, (script.run .proceed).result = .ok (final, steps) ∧
      ∀ statement ∈ final :: steps.map Step.after,
        statement.uncommented.supplied = Supplied.plain statement.supplied ∧
          ((∀ given ∈ statement.supplied,
            ¬ given.isComment → ¬ Text.HasDashes given.text.toList) →
          (statement.compile dialect).map Compiled.withoutRemarks =
            statement.uncommented.compile dialect) := by
  obtain ⟨final, steps, runs, unbroken⟩ := run_isUnbroken built
  refine ⟨final, steps, runs, fun statement mem => ⟨statement.supplied_uncommented, ?_⟩⟩
  exact (unbroken statement mem).compile_uncommented quote

/-- A comment before the statement, one that a join does not show, and one in the midst of
a line. -/
def ScriptArgument.commented : ScriptArgument :=
  .select (some { name := "user" })
    [.setComment "all\n-- of them",
      .addJoin ⟨some { name := "news" }, [.setComment "by\nthem"]⟩
        (.bare "id") (.bare "author") [],
      .editFilter [.addExistence
        ⟨some { name := "role" }, [.setComment "any\r\nat all"]⟩ false]]

theorem ScriptArgument.withoutRemarks_compile_commented :
    Dialect.mysql.quote ≠ some '-' ∧
      ∃ script final steps, commented.script.result = .ok script ∧
        (script.run .proceed).result = .ok (final, steps) ∧
        final.comment = some "all -- of them" ∧
        (final.compile .mysql).map Compiled.withoutRemarks = final.uncommented.compile .mysql := by
  have quote : Dialect.mysql.quote ≠ some '-' := by decide
  have built : commented.script.result = .ok _ := rfl
  obtain ⟨final, steps, runs, inert⟩ := withoutRemarks_compile quote built
  have comment : final.comment = some "all -- of them" := by
    cases runs
    rfl
  have dashless : ∀ given ∈ final.supplied,
      ¬ given.isComment → ¬ Text.HasDashes given.text.toList := by
    cases runs
    decide
  exact ⟨quote, _, final, steps, built, runs, comment, (inert final (by simp)).2 dashless⟩

end BoundSql
