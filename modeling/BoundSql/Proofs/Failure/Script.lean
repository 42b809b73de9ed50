import BoundSql.Proofs.Failure.Atomicity
/-!
# Runs without the edits that failed

A run goes through the same states, apart from those after failures, and ends in the same
statement if the edits that failed are left out.
-/

namespace BoundSql

open Editing

theorem ColumnEdit.run_leavesNoTrace (edit : ColumnEdit) :
    LeavesNoTrace edit.run fun _ => edit.run := by
  cases edit with
  | setName | setTable => exact .done _
  | setAlias aliasName =>
    exact .change (Column.setAlias_isAtomic aliasName) (fun _ => succeeds_pure _)
      fun _ => .reply rfl

theorem ColumnEdit.runEach_isRedone (policy : OnFailure) (edits : List ColumnEdit) :
    IsRedone (OnFailure.proceed.runEach ColumnEdit.run edits) fun replies =>
      policy.runEach ColumnEdit.run (ColumnEdit.trimAll replies edits) := by
  induction edits with
  | nil => exact isRedone_nil rfl
  | cons edit rest ih =>
    refine edit.run_leavesNoTrace.cons policy ih ?_
    intro reply replies
    rw [ColumnEdit.trimAll]
    split <;> rfl

section Traces

variable {Edit State : Type}

/-- The run of a script, and the runs of what remains of it. -/
theorem traceFrom_redone {run : OnFailure → Edit → Editing State Reply}
    {trim : Reply → Edit → Edit} {trimAll : List Reply → List Edit → List Edit}
    (wrap : State → Statement)
    (leaves : ∀ policy edit, LeavesNoTrace (run .proceed edit) fun reply =>
      run policy (trim reply edit))
    (trimAll_nil : trimAll [] [] = [])
    (trimAll_cons : ∀ reply replies edit rest, trimAll (reply :: replies) (edit :: rest) =
      if reply.isFailure then trimAll replies rest
      else trim reply edit :: trimAll replies rest)
    (start : State) (edits : List Edit) :
    ∃ final steps, (traceFrom .proceed (run .proceed) wrap start edits).result =
        .ok (final, steps) ∧
      ∀ policy, ∃ others,
        (traceFrom policy (run policy) wrap start
          (trimAll (steps.map Step.reply) edits)).result = .ok (final, others) ∧
        others.map Step.after =
          (steps.filter fun step => !step.reply.isFailure).map Step.after := by
  have redone := fun policy =>
    traceEdits_redone wrap (leaves policy) trimAll_nil trimAll_cons edits start
  obtain ⟨steps, -, final, run, -⟩ := redone .proceed
  refine ⟨wrap final, steps, traceFrom_of_leads run, fun policy => ?_⟩
  obtain ⟨steps', others, final', run', again, states⟩ := redone policy
  obtain ⟨rfl, rfl⟩ := run.unique run'
  exact ⟨others, traceFrom_of_leads again, states⟩

end Traces

/-- Failed edits leave no trace.  Every run that goes on after failures comes to its end.
If the edits that failed in it are left out, at every depth, none fails any more, so that
the run does not depend on what becomes of failures: it goes through the states that the
first run reached without failure, and ends in the same statement.  The same is true of
the edits of a column. -/
theorem failed_edits_leave_no_trace :
    (∀ script : Script, ∃ final steps,
      (script.run .proceed).result = .ok (final, steps) ∧
      ∀ policy, ∃ others,
        ((script.trim (steps.map Step.reply)).run policy).result = .ok (final, others) ∧
        others.map Step.after =
          (steps.filter fun step => !step.reply.isFailure).map Step.after) ∧
    ∀ (column : Column) (edits : List ColumnEdit), ∃ final replies,
      (OnFailure.proceed.runEach ColumnEdit.run edits).Leads column replies final ∧
      ∀ policy : OnFailure, ∃ others,
        (policy.runEach ColumnEdit.run (ColumnEdit.trimAll replies edits)).Leads
          column others final := by
  constructor
  · intro script
    cases script with
    | select start edits =>
      exact traceFrom_redone .select SelectEdit.run_leavesNoTrace rfl (fun _ _ _ _ => rfl)
        start edits
    | insert start edits =>
      exact traceFrom_redone .insert InsertEdit.run_leavesNoTrace rfl (fun _ _ _ _ => rfl)
        start edits
    | update start edits =>
      exact traceFrom_redone .update UpdateEdit.run_leavesNoTrace rfl (fun _ _ _ _ => rfl)
        start edits
    | delete start edits =>
      exact traceFrom_redone .delete DeleteEdit.run_leavesNoTrace rfl (fun _ _ _ _ => rfl)
        start edits
    | combination start edits =>
      exact traceFrom_redone .combination CombinationEdit.run_leavesNoTrace rfl
        (fun _ _ _ _ => rfl) start edits
    | difference start edits =>
      exact traceFrom_redone .difference DifferenceEdit.run_leavesNoTrace rfl
        (fun _ _ _ _ => rfl) start edits
  · intro column edits
    have redone := fun policy => ColumnEdit.runEach_isRedone policy edits column
    obtain ⟨replies, -, final, run, -⟩ := redone .proceed
    refine ⟨final, replies, run, fun policy => ?_⟩
    obtain ⟨replies', others, final', run', again⟩ := redone policy
    obtain ⟨rfl, rfl⟩ := run.unique run'
    exact ⟨others, again⟩

/-- A SELECT without a table cannot be joined; the edit after it goes on. -/
example :
    ((Script.select (.ofTable { name := "user" })
      [.addJoin ⟨none, []⟩ (.bare "id") (.bare "author") [], .setDistinct]).run
        .proceed).result.map (fun (_, steps) => steps.map (·.reply.isFailure)) =
      .ok [true, false] := rfl

end BoundSql
