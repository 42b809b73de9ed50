import BoundSql.Proofs.Comments.Lines
import BoundSql.Proofs.Editing
/-!
# No edit breaks a comment

The SELECTs that an edit is given are built by edits, too.  So that no edit of a
condition or SELECT breaks a comment is proved together with that of the SELECTs built.
-/

namespace BoundSql

open Editing

/-- Edits of a condition that a state holds. -/
theorem Condition.keepsUnbroken_within {State : Type} {invariant : State → Prop}
    {part : State → Condition} {replace : State → Condition → State}
    {editing : Editing Condition (List Reply)} (keeps : editing.Keeps IsUnbroken)
    (gives : ∀ state, invariant state → (part state).IsUnbroken)
    (takes : ∀ state condition, invariant state → condition.IsUnbroken →
      invariant (replace state condition)) :
    Keeps invariant do
      let replies ← .within part replace editing
      return Reply.within replies :=
  .returning (.within (fun _ => IsUnbroken) (fun _ => keeps) gives takes) _

namespace Select

theorem pushJoin_keepsUnbroken {join : Select} (unbroken : join.IsUnbroken) :
    (pushJoin join).Keeps IsUnbroken := by
  refine .check (fun _ => rfl) fun _ => Keeps.returning (fun select holds => ?_) _
  obtain ⟨-, -, -, joins, -⟩ := isUnbroken_iff.mp holds
  exact holds.setJoins (List.forall_mem_append.mpr ⟨joins, List.forall_mem_singleton.mpr unbroken⟩)

theorem join_keepsUnbroken (table : Table) (own referred : Reference) (columns : List String)
    (joinType : JoinType) : (join table own referred columns joinType).Keeps IsUnbroken := by
  refine .check (fun _ => rfl) fun select => ?_
  split
  · exact .check (fun _ => rfl) fun _ => keeps_pure _
  · rw [openJoin_bind]
    exact pushJoin_keepsUnbroken ((joinOf_isUnbroken table columns joinType).linkTo _ _)

theorem crossJoin_keepsUnbroken (table : Table) (columns : List String) :
    (crossJoin table columns).Keeps IsUnbroken := by
  refine .check (fun _ => rfl) fun select => ?_
  split
  · exact Checks.keeps fun _ => rfl
  · rw [openJoin_bind]
    exact pushJoin_keepsUnbroken (joinOf_isUnbroken table columns .cross)

/-- A SELECT that is joined brings its own comment with it. -/
theorem addJoin_keepsUnbroken {child : Select} (unbroken : child.IsUnbroken)
    (own referred : Reference) : (addJoin child own referred).Keeps IsUnbroken := by
  refine .check (fun _ => rfl) fun select => ?_
  split
  · exact Checks.keeps fun _ => rfl
  · split
    · exact Checks.keeps fun _ => rfl
    · refine pushJoin_keepsUnbroken (IsUnbroken.linkTo ?_ _ _)
      exact unbroken.congr rfl rfl rfl rfl rfl rfl

theorem withinJoin_keepsUnbroken {α : Type} {editing : Editing Select α} (index : Nat)
    (keeps : editing.Keeps IsUnbroken) : (withinJoin index editing).Keeps IsUnbroken := by
  refine .within (fun _ => IsUnbroken) (fun _ => keeps) ?_ ?_
  · intro select unbroken
    obtain ⟨-, -, -, joins, -⟩ := isUnbroken_iff.mp unbroken
    rw [List.getD_eq_getElem?_getD]
    cases place : select.joins[index]? with
    | none => exact start_isUnbroken none
    | some join => exact joins join (List.mem_of_getElem? place)
  · intro select join unbroken edited
    obtain ⟨-, -, -, joins, -⟩ := isUnbroken_iff.mp unbroken
    refine unbroken.setJoins fun one mem => ?_
    rcases List.mem_or_eq_of_mem_set mem with mem | rfl
    · exact joins one mem
    · exact edited

end Select

mutual

theorem OperandArgument.operand_isUnbroken (argument : OperandArgument) {operand : Operand}
    (built : argument.operand.result = .ok operand) : operand.IsUnbroken := by
  cases argument with
  | value value =>
    simp only [OperandArgument.operand] at built
    cases built
    exact Operand.isUnbroken_value value
  | column spelling =>
    simp only [OperandArgument.operand] at built
    obtain ⟨column, -, same⟩ := Logged.ok_of_bind built
    cases same
    exact Operand.isUnbroken_column column
  | select argument =>
    simp only [OperandArgument.operand] at built
    obtain ⟨select, selected, same⟩ := Logged.ok_of_bind built
    cases same
    exact argument.select_isUnbroken selected

theorem SelectArgument.select_isUnbroken (argument : SelectArgument) {select : Select}
    (built : argument.select.result = .ok select) : select.IsUnbroken := by
  cases argument with
  | mk table edits =>
    have keeps := SelectEdit.runAll_keepsUnbroken .abort edits _ (Select.start_isUnbroken table)
    simp only [SelectArgument.select] at built
    exact state_of_logged built ▸ keeps

theorem ConditionEdit.run_keepsUnbroken (policy : OnFailure) (edit : ConditionEdit) :
    (edit.run policy).Keeps Condition.IsUnbroken := by
  cases edit with
  | compare subject relation target =>
    simp only [ConditionEdit.run]
    refine .check (fun _ => rfl) fun subject =>
      Keeps.bind (Checks.keeps fun _ => rfl) fun built => keeps_done fun _ unbroken => ?_
    exact unbroken.compare (target.operand_isUnbroken built.result) subject relation
  | addExistence argument negated =>
    simp only [ConditionEdit.run]
    refine Keeps.bind (Checks.keeps fun _ => rfl) fun built => keeps_done fun _ unbroken => ?_
    exact unbroken.addExistence (argument.select_isUnbroken built.result) negated
  | addMembership | addRange | addNullCheck | addBit | addSearch =>
    simp only [ConditionEdit.run]
    exact .check (fun _ => rfl) fun _ => keeps_done fun _ unbroken => unbroken.congr rfl rfl rfl
  | addLiteral | useConjunction =>
    simp only [ConditionEdit.run]
    exact keeps_done fun _ unbroken => unbroken.congr rfl rfl rfl
  | setConjunction text =>
    simp only [ConditionEdit.run]
    refine .returning (.check (fun _ => rfl) fun conjunction => ?_) _
    exact fun _ unbroken => unbroken.congr rfl rfl rfl
  | addSubcondition conjunction edits =>
    simp only [ConditionEdit.run]
    exact Condition.keepsUnbroken_within
      (ConditionEdit.runAll_keepsUnbroken policy edits)
      (fun _ _ => (Condition.isUnbroken_bound none).congr rfl rfl rfl)
      fun _ _ unbroken added => unbroken.addSubcondition added
  | replace table =>
    simp only [ConditionEdit.run]
    exact keeps_done fun _ _ => Condition.isUnbroken_bound table
  | inspect =>
    simp only [ConditionEdit.run]
    exact .check (fun _ => rfl) fun _ => keeps_pure _

theorem ConditionEdit.runAll_keepsUnbroken (policy : OnFailure) (edits : List ConditionEdit) :
    (ConditionEdit.runAll policy edits).Keeps Condition.IsUnbroken := by
  cases edits with
  | nil => exact Checks.keeps fun _ => rfl
  | cons edit rest =>
    exact (ConditionEdit.run_keepsUnbroken policy edit).cons
      (ConditionEdit.runAll_keepsUnbroken policy rest) policy

theorem SelectEdit.run_keepsUnbroken (policy : OnFailure) (edit : SelectEdit) :
    (edit.run policy).Keeps Select.IsUnbroken := by
  cases edit with
  | setTable table =>
    simp only [SelectEdit.run]
    exact keeps_done fun _ unbroken => unbroken.setTable table
  | setComment comment =>
    simp only [SelectEdit.run]
    exact keeps_done fun _ unbroken => unbroken.setComment comment
  | addQueryColumn argument aliasName =>
    simp only [SelectEdit.run]
    refine Keeps.bind (Checks.keeps fun _ => rfl) fun built => keeps_done fun _ unbroken => ?_
    exact unbroken.addQueryColumn (argument.select_isUnbroken built.result) aliasName
  | setColumns | addValueColumn | addFunctionColumn | setCount | setDistinct | setJoinType
    | setWindow | setRowCount | setStart =>
    simp only [SelectEdit.run, Select.replaceColumns_eq]
    exact keeps_done fun _ unbroken => unbroken.congr rfl rfl rfl rfl rfl rfl
  | addGroupBy | orderRows =>
    simp only [SelectEdit.run]
    exact .check (fun _ => rfl) fun _ =>
      keeps_done fun _ unbroken => unbroken.congr rfl rfl rfl rfl rfl rfl
  | orderRowsNamed =>
    simp only [SelectEdit.run]
    exact .check (fun _ => rfl) fun _ => .check (fun _ => rfl) fun _ =>
      keeps_done fun _ unbroken => unbroken.congr rfl rfl rfl rfl rfl rfl
  | join table own referred columns joinType edits =>
    simp only [SelectEdit.run]
    refine .check (fun _ => rfl) fun own => .check (fun _ => rfl) fun referred =>
      Keeps.bind (Select.join_keepsUnbroken _ _ _ _ _) fun _ => .returning ?_ _
    exact Select.withinJoin_keepsUnbroken _ (SelectEdit.runAll_keepsUnbroken policy edits)
  | crossJoin table columns edits =>
    simp only [SelectEdit.run]
    refine Keeps.bind (Select.crossJoin_keepsUnbroken _ _) fun _ => .returning ?_ _
    exact Select.withinJoin_keepsUnbroken _ (SelectEdit.runAll_keepsUnbroken policy edits)
  | addJoin child own referred edits =>
    simp only [SelectEdit.run]
    refine Keeps.bind (Checks.keeps fun _ => rfl) fun built =>
      .check (fun _ => rfl) fun own => .check (fun _ => rfl) fun referred =>
      (Select.addJoin_keepsUnbroken ?_ _ _).bind fun _ => .returning ?_ _
    · exact child.select_isUnbroken built.result
    · exact Select.withinJoin_keepsUnbroken _ (SelectEdit.runAll_keepsUnbroken policy edits)
  | editOn edits =>
    simp only [SelectEdit.run]
    exact Condition.keepsUnbroken_within
      (ConditionEdit.runAll_keepsUnbroken policy edits)
      (fun _ unbroken => (Select.isUnbroken_iff.mp unbroken).2.1)
      fun _ _ unbroken link => unbroken.setLink link
  | editFilter edits =>
    simp only [SelectEdit.run]
    exact Condition.keepsUnbroken_within
      (ConditionEdit.runAll_keepsUnbroken policy edits)
      (fun _ unbroken => unbroken.filterOrNew)
      fun _ _ unbroken filter => unbroken.setFilter filter
  | editHaving conjunction edits =>
    simp only [SelectEdit.run]
    exact Condition.keepsUnbroken_within
      (ConditionEdit.runAll_keepsUnbroken policy edits)
      (fun _ unbroken => unbroken.havingUnder conjunction)
      fun _ _ unbroken having => unbroken.setHaving having
  | editHavingNamed text edits =>
    simp only [SelectEdit.run]
    exact .check (fun _ => rfl) fun conjunction => Condition.keepsUnbroken_within
      (ConditionEdit.runAll_keepsUnbroken policy edits)
      (fun _ unbroken => unbroken.havingUnder conjunction)
      fun _ _ unbroken having => unbroken.setHaving having
  | copy =>
    simp only [SelectEdit.run]
    exact .check (fun _ => rfl) fun _ => .check (fun _ => rfl) fun _ => keeps_pure _
  | listColumns withJoins =>
    cases withJoins <;> simp only [SelectEdit.run] <;>
      exact .check (fun _ => rfl) fun _ => .check (fun _ => rfl) fun _ => keeps_pure _
  | ask | inspect =>
    simp only [SelectEdit.run]
    exact .check (fun _ => rfl) fun _ => Checks.keeps fun _ => rfl

theorem SelectEdit.runAll_keepsUnbroken (policy : OnFailure) (edits : List SelectEdit) :
    (SelectEdit.runAll policy edits).Keeps Select.IsUnbroken := by
  cases edits with
  | nil => exact Checks.keeps fun _ => rfl
  | cons edit rest =>
    exact (SelectEdit.run_keepsUnbroken policy edit).cons
      (SelectEdit.runAll_keepsUnbroken policy rest) policy

end

end BoundSql
