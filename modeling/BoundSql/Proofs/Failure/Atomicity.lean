import BoundSql.Proofs.Failure.Rules
/-!
# Failed edits leave no trace
-/

namespace BoundSql

open Editing

theorem Statement.answer_tells {statement : Statement} {part : Part} {reply : Reply}
    (answers : statement.answer part = .ok reply) : reply.isFailure = false := by
  cases part with
  | table =>
    rw [Statement.answer] at answers
    cases seen : statement.table? <;> rw [seen] at answers <;> cases answers
    rfl
  | filter =>
    rw [Statement.answer] at answers
    cases seen : statement.filter? <;> rw [seen] at answers <;> cases answers
    rfl

theorem Column.setAlias_isAtomic (aliasName : String) :
    (Column.setAlias aliasName).IsAtomic := by
  refine Checks.bind_isAtomic (fun _ => rfl) fun column => ?_
  split
  · exact (succeeds_change _).isAtomic
  · split
    · exact fun _ _ _ => rfl
    · exact (succeeds_change _).isAtomic

theorem Condition.setConjunction_isAtomic (text : String) :
    (Condition.setConjunction text).IsAtomic :=
  Checks.bind_isAtomic (fun _ => rfl) fun _ => (succeeds_change _).isAtomic

mutual

theorem ConditionEdit.run_leavesNoTrace (policy : OnFailure) (edit : ConditionEdit) :
    LeavesNoTrace (edit.run .proceed) fun reply => (edit.trim reply).run policy := by
  cases edit with
  | compare =>
    simp only [ConditionEdit.trim, ConditionEdit.run]
    exact .check (fun _ => rfl) fun _ => .check (fun _ => rfl) fun _ => .done _
  | addMembership | addRange | addNullCheck | addBit | addSearch | addExistence =>
    simp only [ConditionEdit.trim, ConditionEdit.run]
    exact .check (fun _ => rfl) fun _ => .done _
  | addLiteral | useConjunction | replace =>
    simp only [ConditionEdit.trim, ConditionEdit.run]
    exact .done _
  | setConjunction text =>
    simp only [ConditionEdit.trim, ConditionEdit.run]
    exact .change (Condition.setConjunction_isAtomic text) (fun _ => succeeds_pure _)
      fun _ => .reply rfl
  | addSubcondition conjunction edits =>
    simp only [ConditionEdit.trim, ConditionEdit.run]
    exact (ConditionEdit.runAll_isRedone policy edits).within _ _
  | inspect =>
    simp only [ConditionEdit.trim, ConditionEdit.run]
    exact .check (fun _ => rfl) fun _ => .reply rfl

theorem ConditionEdit.runAll_isRedone (policy : OnFailure) (edits : List ConditionEdit) :
    IsRedone (ConditionEdit.runAll .proceed edits) fun replies =>
      ConditionEdit.runAll policy (ConditionEdit.trimAll replies edits) := by
  cases edits with
  | nil => exact isRedone_nil rfl
  | cons edit rest =>
    refine (edit.run_leavesNoTrace policy).cons policy
      (ConditionEdit.runAll_isRedone policy rest) ?_
    intro reply replies
    rw [ConditionEdit.trimAll]
    split <;> rfl

end

/-! ### Edits of SELECTs -/

namespace Select

theorem pushJoin_succeeds (join : Select) : (pushJoin join).Succeeds :=
  succeeds_current.bind fun _ => (succeeds_change _).bind fun _ => succeeds_pure _

theorem join_succeeds (table : Table) (own referred : Reference) (columns : List String)
    (joinType : JoinType) : (join table own referred columns joinType).Succeeds := by
  refine succeeds_current.bind fun select => ?_
  split
  · exact Succeeds.bind (fun state => ⟨(), state, rfl, rfl⟩) fun _ => succeeds_pure _
  · rw [openJoin_bind]
    exact pushJoin_succeeds _

theorem crossJoin_succeeds (table : Table) (columns : List String) :
    (crossJoin table columns).Succeeds := by
  refine succeeds_current.bind fun select => ?_
  split
  · exact succeeds_pure _
  · rw [openJoin_bind]
    exact pushJoin_succeeds _

theorem addJoin_isAtomic (child : Select) (own referred : Reference) :
    (addJoin child own referred).IsAtomic := by
  refine Checks.bind_isAtomic (fun _ => rfl) fun select => ?_
  split
  · exact fun _ _ _ => rfl
  · split
    · exact (succeeds_pure _).isAtomic
    · exact (pushJoin_succeeds _).isAtomic

end Select

mutual

theorem SelectEdit.run_leavesNoTrace (policy : OnFailure) (edit : SelectEdit) :
    LeavesNoTrace (edit.run .proceed) fun reply => (edit.trim reply).run policy := by
  cases edit with
  | setTable | setComment | setColumns | addValueColumn | addFunctionColumn | setCount
    | setDistinct | setJoinType | setWindow | setRowCount | setStart =>
    simp only [SelectEdit.trim, SelectEdit.run, Select.replaceColumns_eq]
    exact .done _
  | addQueryColumn | addGroupBy | orderRows =>
    simp only [SelectEdit.trim, SelectEdit.run]
    exact .check (fun _ => rfl) fun _ => .done _
  | orderRowsNamed =>
    simp only [SelectEdit.trim, SelectEdit.run]
    exact .check (fun _ => rfl) fun _ => .check (fun _ => rfl) fun _ => .done _
  | join table own referred columns joinType edits =>
    have redone := SelectEdit.runAll_isRedone policy edits
    simp only [SelectEdit.trim, SelectEdit.run]
    exact .check (fun _ => rfl) fun own => .check (fun _ => rfl) fun referred =>
      .change (Select.join_succeeds _ _ _ _ _).isAtomic
        (fun index => redone.within_succeeds _ _) fun index => redone.within _ _
  | crossJoin table columns edits =>
    have redone := SelectEdit.runAll_isRedone policy edits
    simp only [SelectEdit.trim, SelectEdit.run]
    exact .change (Select.crossJoin_succeeds _ _).isAtomic
        (fun index => redone.within_succeeds _ _) fun index => redone.within _ _
  | addJoin child own referred edits =>
    have redone := SelectEdit.runAll_isRedone policy edits
    simp only [SelectEdit.trim, SelectEdit.run]
    exact .check (fun _ => rfl) fun child => .check (fun _ => rfl) fun own =>
      .check (fun _ => rfl) fun referred =>
      .change (Select.addJoin_isAtomic _ _ _)
        (fun index => redone.within_succeeds _ _) fun index => redone.within _ _
  | editOn edits =>
    simp only [SelectEdit.trim, SelectEdit.run]
    exact (ConditionEdit.runAll_isRedone policy edits).within _ _
  | editFilter edits =>
    simp only [SelectEdit.trim, SelectEdit.run]
    exact (ConditionEdit.runAll_isRedone policy edits).within _ _
  | editHaving conjunction edits =>
    simp only [SelectEdit.trim, SelectEdit.run]
    exact (ConditionEdit.runAll_isRedone policy edits).within _ _
  | editHavingNamed text edits =>
    simp only [SelectEdit.trim, SelectEdit.run]
    exact .check (fun _ => rfl) fun _ =>
      (ConditionEdit.runAll_isRedone policy edits).within _ _
  | copy edits =>
    simp only [SelectEdit.trim, SelectEdit.run]
    exact (SelectEdit.runAll_isRedone policy edits).copy _
  | listColumns withJoins =>
    cases withJoins <;> simp only [SelectEdit.trim, SelectEdit.run] <;>
      exact .check (fun _ => rfl) fun _ => .check (fun _ => rfl) fun _ => .reply rfl
  | ask =>
    simp only [SelectEdit.trim, SelectEdit.run]
    exact .check (fun _ => rfl) fun _ => .answer fun _ => Statement.answer_tells
  | inspect =>
    simp only [SelectEdit.trim, SelectEdit.run]
    exact .check (fun _ => rfl) fun _ => .reply rfl

theorem SelectEdit.runAll_isRedone (policy : OnFailure) (edits : List SelectEdit) :
    IsRedone (SelectEdit.runAll .proceed edits) fun replies =>
      SelectEdit.runAll policy (SelectEdit.trimAll replies edits) := by
  cases edits with
  | nil => exact isRedone_nil rfl
  | cons edit rest =>
    refine (edit.run_leavesNoTrace policy).cons policy
      (SelectEdit.runAll_isRedone policy rest) ?_
    intro reply replies
    rw [SelectEdit.trimAll]
    split <;> rfl

end

/-! ### Edits of the other statements -/

mutual

theorem InsertEdit.run_leavesNoTrace (policy : OnFailure) (edit : InsertEdit) :
    LeavesNoTrace (edit.run .proceed) fun reply => (edit.trim reply).run policy := by
  cases edit with
  | set | setAll =>
    simp only [InsertEdit.trim, InsertEdit.run]
    exact .check (fun _ => rfl) fun _ => .done _
  | setTable | setComment =>
    simp only [InsertEdit.trim, InsertEdit.run]
    exact .done _
  | editFilter =>
    simp only [InsertEdit.trim, InsertEdit.run]
    exact .fail _
  | copy edits =>
    simp only [InsertEdit.trim, InsertEdit.run]
    exact (InsertEdit.runAll_isRedone policy edits).copy _
  | ask =>
    simp only [InsertEdit.trim, InsertEdit.run]
    exact .check (fun _ => rfl) fun _ => .answer fun _ => Statement.answer_tells
  | inspect =>
    simp only [InsertEdit.trim, InsertEdit.run]
    exact .check (fun _ => rfl) fun _ => .reply rfl

theorem InsertEdit.runAll_isRedone (policy : OnFailure) (edits : List InsertEdit) :
    IsRedone (InsertEdit.runAll .proceed edits) fun replies =>
      InsertEdit.runAll policy (InsertEdit.trimAll replies edits) := by
  cases edits with
  | nil => exact isRedone_nil rfl
  | cons edit rest =>
    refine (edit.run_leavesNoTrace policy).cons policy
      (InsertEdit.runAll_isRedone policy rest) ?_
    intro reply replies
    rw [InsertEdit.trimAll]
    split <;> rfl

end

mutual

theorem UpdateEdit.run_leavesNoTrace (policy : OnFailure) (edit : UpdateEdit) :
    LeavesNoTrace (edit.run .proceed) fun reply => (edit.trim reply).run policy := by
  cases edit with
  | set | setAll =>
    simp only [UpdateEdit.trim, UpdateEdit.run]
    exact .check (fun _ => rfl) fun _ => .done _
  | setTable | setComment | setLimit =>
    simp only [UpdateEdit.trim, UpdateEdit.run]
    exact .done _
  | editFilter edits =>
    simp only [UpdateEdit.trim, UpdateEdit.run]
    exact (ConditionEdit.runAll_isRedone policy edits).within _ _
  | copy edits =>
    simp only [UpdateEdit.trim, UpdateEdit.run]
    exact (UpdateEdit.runAll_isRedone policy edits).copy _
  | ask =>
    simp only [UpdateEdit.trim, UpdateEdit.run]
    exact .check (fun _ => rfl) fun _ => .answer fun _ => Statement.answer_tells
  | inspect =>
    simp only [UpdateEdit.trim, UpdateEdit.run]
    exact .check (fun _ => rfl) fun _ => .reply rfl

theorem UpdateEdit.runAll_isRedone (policy : OnFailure) (edits : List UpdateEdit) :
    IsRedone (UpdateEdit.runAll .proceed edits) fun replies =>
      UpdateEdit.runAll policy (UpdateEdit.trimAll replies edits) := by
  cases edits with
  | nil => exact isRedone_nil rfl
  | cons edit rest =>
    refine (edit.run_leavesNoTrace policy).cons policy
      (UpdateEdit.runAll_isRedone policy rest) ?_
    intro reply replies
    rw [UpdateEdit.trimAll]
    split <;> rfl

end

mutual

theorem DeleteEdit.run_leavesNoTrace (policy : OnFailure) (edit : DeleteEdit) :
    LeavesNoTrace (edit.run .proceed) fun reply => (edit.trim reply).run policy := by
  cases edit with
  | setTable | setComment | setLimit =>
    simp only [DeleteEdit.trim, DeleteEdit.run]
    exact .done _
  | editFilter edits =>
    simp only [DeleteEdit.trim, DeleteEdit.run]
    exact (ConditionEdit.runAll_isRedone policy edits).within _ _
  | copy edits =>
    simp only [DeleteEdit.trim, DeleteEdit.run]
    exact (DeleteEdit.runAll_isRedone policy edits).copy _
  | ask =>
    simp only [DeleteEdit.trim, DeleteEdit.run]
    exact .check (fun _ => rfl) fun _ => .answer fun _ => Statement.answer_tells
  | inspect =>
    simp only [DeleteEdit.trim, DeleteEdit.run]
    exact .check (fun _ => rfl) fun _ => .reply rfl

theorem DeleteEdit.runAll_isRedone (policy : OnFailure) (edits : List DeleteEdit) :
    IsRedone (DeleteEdit.runAll .proceed edits) fun replies =>
      DeleteEdit.runAll policy (DeleteEdit.trimAll replies edits) := by
  cases edits with
  | nil => exact isRedone_nil rfl
  | cons edit rest =>
    refine (edit.run_leavesNoTrace policy).cons policy
      (DeleteEdit.runAll_isRedone policy rest) ?_
    intro reply replies
    rw [DeleteEdit.trimAll]
    split <;> rfl

end

mutual

theorem CombinationEdit.run_leavesNoTrace (policy : OnFailure) (edit : CombinationEdit) :
    LeavesNoTrace (edit.run .proceed) fun reply => (edit.trim reply).run policy := by
  cases edit with
  | add =>
    simp only [CombinationEdit.trim, CombinationEdit.run]
    exact .check (fun _ => rfl) fun _ => .done _
  | setComment =>
    simp only [CombinationEdit.trim, CombinationEdit.run]
    exact .done _
  | editFilter =>
    simp only [CombinationEdit.trim, CombinationEdit.run]
    exact .check (fun _ => rfl) fun _ => .fail _
  | copy edits =>
    simp only [CombinationEdit.trim, CombinationEdit.run]
    exact (CombinationEdit.runAll_isRedone policy edits).copy _
  | ask =>
    simp only [CombinationEdit.trim, CombinationEdit.run]
    exact .check (fun _ => rfl) fun _ => .answer fun _ => Statement.answer_tells
  | inspect =>
    simp only [CombinationEdit.trim, CombinationEdit.run]
    exact .check (fun _ => rfl) fun _ => .reply rfl

theorem CombinationEdit.runAll_isRedone (policy : OnFailure) (edits : List CombinationEdit) :
    IsRedone (CombinationEdit.runAll .proceed edits) fun replies =>
      CombinationEdit.runAll policy (CombinationEdit.trimAll replies edits) := by
  cases edits with
  | nil => exact isRedone_nil rfl
  | cons edit rest =>
    refine (edit.run_leavesNoTrace policy).cons policy
      (CombinationEdit.runAll_isRedone policy rest) ?_
    intro reply replies
    rw [CombinationEdit.trimAll]
    split <;> rfl

end

mutual

theorem DifferenceEdit.run_leavesNoTrace (policy : OnFailure) (edit : DifferenceEdit) :
    LeavesNoTrace (edit.run .proceed) fun reply => (edit.trim reply).run policy := by
  cases edit with
  | setComment =>
    simp only [DifferenceEdit.trim, DifferenceEdit.run]
    exact .done _
  | editFilter =>
    simp only [DifferenceEdit.trim, DifferenceEdit.run]
    exact .fail _
  | copy edits =>
    simp only [DifferenceEdit.trim, DifferenceEdit.run]
    exact (DifferenceEdit.runAll_isRedone policy edits).copy _
  | ask =>
    simp only [DifferenceEdit.trim, DifferenceEdit.run]
    exact .check (fun _ => rfl) fun _ => .answer fun _ => Statement.answer_tells
  | inspect =>
    simp only [DifferenceEdit.trim, DifferenceEdit.run]
    exact .check (fun _ => rfl) fun _ => .reply rfl

theorem DifferenceEdit.runAll_isRedone (policy : OnFailure) (edits : List DifferenceEdit) :
    IsRedone (DifferenceEdit.runAll .proceed edits) fun replies =>
      DifferenceEdit.runAll policy (DifferenceEdit.trimAll replies edits) := by
  cases edits with
  | nil => exact isRedone_nil rfl
  | cons edit rest =>
    refine (edit.run_leavesNoTrace policy).cons policy
      (DifferenceEdit.runAll_isRedone policy rest) ?_
    intro reply replies
    rw [DifferenceEdit.trimAll]
    split <;> rfl

end

end BoundSql
