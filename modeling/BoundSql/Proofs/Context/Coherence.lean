import BoundSql.Proofs.Context.Basic
import BoundSql.Proofs.Editing
/-!
# Conditions belong to the table of their statement
-/

namespace BoundSql

open Editing

/-! ### Edits of conditions -/

mutual

theorem ConditionEdit.run_keeps {table : Option Table} (policy : OnFailure)
    (edit : ConditionEdit) (replaces : edit.replacesNothing) :
    (edit.run policy).Keeps (Condition.IsBoundTo table) := by
  cases edit with
  | compare =>
    simp only [ConditionEdit.run]
    exact .check (fun _ => rfl) fun _ => .check (fun _ => rfl) fun _ =>
      keeps_done fun _ bound => bound.congr rfl rfl
  | addMembership | addRange | addNullCheck | addBit | addSearch | addExistence =>
    simp only [ConditionEdit.run]
    exact .check (fun _ => rfl) fun _ => keeps_done fun _ bound => bound.congr rfl rfl
  | addLiteral | useConjunction =>
    simp only [ConditionEdit.run]
    exact keeps_done fun _ bound => bound.congr rfl rfl
  | setConjunction text =>
    simp only [ConditionEdit.run]
    refine .returning (.check (fun _ => rfl) fun conjunction => ?_) _
    exact fun _ bound => bound.congr rfl rfl
  | addSubcondition conjunction edits =>
    simp only [ConditionEdit.run]
    refine .returning (.within (fun _ => Condition.IsBoundTo table) (fun _ => ?_) ?_ ?_) _
    · exact ConditionEdit.runAll_keeps policy edits replaces
    · -- A subcondition starts with the table of the condition that it is added to.
      intro condition bound
      exact bound.table_eq ▸ Condition.isBoundTo_of_no_subcondition rfl
    · exact fun _ _ bound added => bound.addSubcondition added
  | replace => cases replaces
  | inspect =>
    simp only [ConditionEdit.run]
    exact .check (fun _ => rfl) fun _ => keeps_pure _

theorem ConditionEdit.runAll_keeps {table : Option Table} (policy : OnFailure)
    (edits : List ConditionEdit) (replaces : ConditionEdit.replaceNothing edits) :
    (ConditionEdit.runAll policy edits).Keeps (Condition.IsBoundTo table) := by
  cases edits with
  | nil => exact Checks.keeps fun _ => rfl
  | cons edit rest =>
    obtain ⟨first, others⟩ := Bool.and_eq_true_iff.mp replaces
    exact (ConditionEdit.run_keeps policy edit first).cons
      (ConditionEdit.runAll_keeps policy rest others) policy

end

/-- A condition that comes into being if there is none. -/
theorem Condition.getD_isBoundTo {table : Option Table} {condition : Option Condition}
    (bound : ∀ one ∈ condition, one.IsBoundTo table) :
    (condition.getD (.bound table)).IsBoundTo table := by
  cases condition with
  | none => exact isBoundTo_of_no_subcondition rfl
  | some one => exact bound one rfl

/-! ### Edits of SELECTs -/

namespace Select

theorem unbound_isCoherent : unbound.IsCoherent :=
  isCoherent_of_bound (Condition.isBoundTo_of_no_subcondition rfl) rfl rfl rfl

theorem ofTable_isCoherent (table : Table) : (ofTable table).IsCoherent :=
  isCoherent_of_bound (Condition.isBoundTo_of_no_subcondition rfl) rfl rfl rfl

theorem start_isCoherent (table : Option Table) : (SelectArgument.start table).IsCoherent := by
  cases table with
  | none => exact unbound_isCoherent
  | some table => exact ofTable_isCoherent table

theorem joinOf_isCoherent (table : Table) (columns : List String) (joinType : JoinType) :
    (joinOf table columns joinType).IsCoherent := by
  rw [joinOf]
  split
  · exact (ofTable_isCoherent table).congr rfl rfl rfl rfl rfl
  · exact (ofTable_isCoherent table).congr rfl rfl rfl rfl rfl

theorem IsCoherent.linkTo {join : Select} (coherent : join.IsCoherent)
    (reference : Reference) (target : Column) : (join.linkTo reference target).IsCoherent := by
  rw [isCoherent_iff] at coherent ⊢
  obtain ⟨link, others⟩ := coherent
  exact ⟨link.congr rfl rfl, others⟩

theorem IsCoherent.setTable {select : Select} (coherent : select.IsCoherent)
    (table : Table) : (select.setTable table).IsCoherent := by
  rw [isCoherent_iff] at coherent ⊢
  exact ⟨Condition.rebind_isBoundTo _ _, Condition.map_rebind_isBoundTo _ _,
    Condition.map_rebind_isBoundTo _ _, coherent.2.2.2⟩

theorem IsCoherent.filterOrNew {select : Select} (coherent : select.IsCoherent) :
    select.filterOrNew.IsBoundTo select.table :=
  Condition.getD_isBoundTo (isCoherent_iff.mp coherent).2.1

theorem IsCoherent.havingUnder {select : Select} (coherent : select.IsCoherent)
    (conjunction : Conjunction) :
    (select.havingUnder conjunction).IsBoundTo select.table :=
  (Condition.getD_isBoundTo (isCoherent_iff.mp coherent).2.2.1).congr rfl rfl

theorem IsCoherent.setLink {select : Select} (coherent : select.IsCoherent)
    {link : Condition} (bound : link.IsBoundTo select.table) :
    IsCoherent { select with link := link } := by
  rw [isCoherent_iff] at coherent ⊢
  exact ⟨bound, coherent.2⟩

theorem IsCoherent.setFilter {select : Select} (coherent : select.IsCoherent)
    {filter : Condition} (bound : filter.IsBoundTo select.table) :
    IsCoherent { select with filter := some filter } := by
  rw [isCoherent_iff] at coherent ⊢
  refine ⟨coherent.1, ?_, coherent.2.2⟩
  rintro _ ⟨⟩
  exact bound

theorem IsCoherent.setHaving {select : Select} (coherent : select.IsCoherent)
    {having : Condition} (bound : having.IsBoundTo select.table) :
    IsCoherent { select with having := some having } := by
  rw [isCoherent_iff] at coherent ⊢
  refine ⟨coherent.1, coherent.2.1, ?_, coherent.2.2.2⟩
  rintro _ ⟨⟩
  exact bound

/-- Edits of a condition of a SELECT. -/
theorem editCondition_keeps {part : Select → Condition}
    {replace : Select → Condition → Select} {editing : Editing Condition (List Reply)}
    (keeps : ∀ table, editing.Keeps (Condition.IsBoundTo table))
    (gives : ∀ select, select.IsCoherent → (part select).IsBoundTo select.table)
    (takes : ∀ select condition, select.IsCoherent → condition.IsBoundTo select.table →
      (replace select condition).IsCoherent) :
    Keeps IsCoherent do
      let replies ← .within part replace editing
      return Reply.within replies :=
  .returning (.within (fun select => Condition.IsBoundTo select.table)
    (fun select => keeps select.table) gives takes) _

theorem pushJoin_keeps {join : Select} (coherent : join.IsCoherent) :
    (pushJoin join).Keeps IsCoherent := by
  refine .check (fun _ => rfl) fun _ => Keeps.returning (fun select holds => ?_) _
  show IsCoherent { select with joins := select.joins ++ [join] }
  rw [isCoherent_iff] at holds ⊢
  refine ⟨holds.1, holds.2.1, holds.2.2.1, ?_⟩
  simp only [List.forall_mem_append, List.forall_mem_singleton]
  exact ⟨holds.2.2.2, coherent⟩

theorem join_keeps (table : Table) (own referred : Reference) (columns : List String)
    (joinType : JoinType) : (join table own referred columns joinType).Keeps IsCoherent := by
  refine .check (fun _ => rfl) fun select => ?_
  split
  · exact .check (fun _ => rfl) fun _ => keeps_pure _
  · rw [openJoin_bind]
    exact pushJoin_keeps ((joinOf_isCoherent table columns joinType).linkTo _ _)

theorem crossJoin_keeps (table : Table) (columns : List String) :
    (crossJoin table columns).Keeps IsCoherent := by
  refine .check (fun _ => rfl) fun select => ?_
  split
  · exact Checks.keeps fun _ => rfl
  · rw [openJoin_bind]
    exact pushJoin_keeps (joinOf_isCoherent table columns .cross)

theorem addJoin_keeps {child : Select} (coherent : child.IsCoherent)
    (own referred : Reference) : (addJoin child own referred).Keeps IsCoherent := by
  refine .check (fun _ => rfl) fun select => ?_
  split
  · exact Checks.keeps fun _ => rfl
  · split
    · exact Checks.keeps fun _ => rfl
    · refine pushJoin_keeps (IsCoherent.linkTo ?_ _ _)
      exact coherent.congr rfl rfl rfl rfl rfl

theorem withinJoin_keeps {α : Type} {editing : Editing Select α} (index : Nat)
    (keeps : editing.Keeps IsCoherent) : (withinJoin index editing).Keeps IsCoherent := by
  refine .within (fun _ => IsCoherent) (fun _ => keeps) ?_ ?_
  · intro select coherent
    rw [List.getD_eq_getElem?_getD]
    cases place : select.joins[index]? with
    | none => exact unbound_isCoherent
    | some join =>
      exact (isCoherent_iff.mp coherent).2.2.2 join (List.mem_of_getElem? place)
  · intro select join coherent edited
    rw [isCoherent_iff] at coherent ⊢
    refine ⟨coherent.1, coherent.2.1, coherent.2.2.1, fun one mem => ?_⟩
    rcases List.mem_or_eq_of_mem_set mem with mem | rfl
    · exact coherent.2.2.2 one mem
    · exact edited

end Select

mutual

theorem SelectArgument.select_isCoherent (argument : SelectArgument)
    (replaces : argument.replacesNothing) {select : Select}
    (built : argument.select.result = .ok select) : select.IsCoherent := by
  cases argument with
  | mk table edits =>
    have keeps := SelectEdit.runAll_keeps .abort edits replaces _ (Select.start_isCoherent table)
    simp only [SelectArgument.select] at built
    exact state_of_logged built ▸ keeps

theorem SelectEdit.run_keeps (policy : OnFailure) (edit : SelectEdit)
    (replaces : edit.replacesNothing) : (edit.run policy).Keeps Select.IsCoherent := by
  cases edit with
  | setTable =>
    simp only [SelectEdit.run]
    exact keeps_done fun _ coherent => coherent.setTable _
  | setComment | setColumns | addValueColumn | addFunctionColumn | setCount | setDistinct
    | setJoinType | setWindow | setRowCount | setStart =>
    simp only [SelectEdit.run, Select.replaceColumns_eq]
    exact keeps_done fun _ coherent => coherent.congr rfl rfl rfl rfl rfl
  | addQueryColumn | addGroupBy | orderRows =>
    simp only [SelectEdit.run]
    exact .check (fun _ => rfl) fun _ =>
      keeps_done fun _ coherent => coherent.congr rfl rfl rfl rfl rfl
  | orderRowsNamed =>
    simp only [SelectEdit.run]
    exact .check (fun _ => rfl) fun _ => .check (fun _ => rfl) fun _ =>
      keeps_done fun _ coherent => coherent.congr rfl rfl rfl rfl rfl
  | join table own referred columns joinType edits =>
    simp only [SelectEdit.run]
    refine .check (fun _ => rfl) fun own => .check (fun _ => rfl) fun referred =>
      Keeps.bind (Select.join_keeps _ _ _ _ _) fun _ => .returning ?_ _
    exact Select.withinJoin_keeps _ (SelectEdit.runAll_keeps policy edits replaces)
  | crossJoin table columns edits =>
    simp only [SelectEdit.run]
    refine Keeps.bind (Select.crossJoin_keeps _ _) fun _ => .returning ?_ _
    exact Select.withinJoin_keeps _ (SelectEdit.runAll_keeps policy edits replaces)
  | addJoin child own referred edits =>
    obtain ⟨first, others⟩ := Bool.and_eq_true_iff.mp replaces
    simp only [SelectEdit.run]
    refine Keeps.bind (Checks.keeps fun _ => rfl) fun built =>
      .check (fun _ => rfl) fun own => .check (fun _ => rfl) fun referred =>
      (Select.addJoin_keeps ?_ _ _).bind fun _ => .returning ?_ _
    · exact child.select_isCoherent first built.result
    · exact Select.withinJoin_keeps _ (SelectEdit.runAll_keeps policy edits others)
  | editOn edits =>
    simp only [SelectEdit.run]
    exact Select.editCondition_keeps
      (fun _ => ConditionEdit.runAll_keeps policy edits replaces)
      (fun _ coherent => (Select.isCoherent_iff.mp coherent).1)
      fun _ _ coherent bound => coherent.setLink bound
  | editFilter edits =>
    simp only [SelectEdit.run]
    exact Select.editCondition_keeps
      (fun _ => ConditionEdit.runAll_keeps policy edits replaces)
      (fun _ coherent => coherent.filterOrNew)
      fun _ _ coherent bound => coherent.setFilter bound
  | editHaving conjunction edits =>
    simp only [SelectEdit.run]
    exact Select.editCondition_keeps
      (fun _ => ConditionEdit.runAll_keeps policy edits replaces)
      (fun _ coherent => coherent.havingUnder conjunction)
      fun _ _ coherent bound => coherent.setHaving bound
  | editHavingNamed text edits =>
    simp only [SelectEdit.run]
    exact .check (fun _ => rfl) fun conjunction => Select.editCondition_keeps
      (fun _ => ConditionEdit.runAll_keeps policy edits replaces)
      (fun _ coherent => coherent.havingUnder conjunction)
      fun _ _ coherent bound => coherent.setHaving bound
  | copy =>
    simp only [SelectEdit.run]
    exact .check (fun _ => rfl) fun _ => .check (fun _ => rfl) fun _ => keeps_pure _
  | listColumns withJoins =>
    cases withJoins <;> simp only [SelectEdit.run] <;>
      exact .check (fun _ => rfl) fun _ => .check (fun _ => rfl) fun _ => keeps_pure _
  | ask | inspect =>
    simp only [SelectEdit.run]
    exact .check (fun _ => rfl) fun _ => Checks.keeps fun _ => rfl

theorem SelectEdit.runAll_keeps (policy : OnFailure) (edits : List SelectEdit)
    (replaces : SelectEdit.replaceNothing edits) :
    (SelectEdit.runAll policy edits).Keeps Select.IsCoherent := by
  cases edits with
  | nil => exact Checks.keeps fun _ => rfl
  | cons edit rest =>
    obtain ⟨first, others⟩ := Bool.and_eq_true_iff.mp replaces
    exact (SelectEdit.run_keeps policy edit first).cons
      (SelectEdit.runAll_keeps policy rest others) policy

end

/-! ### Edits of UPDATEs and DELETEs -/

theorem UpdateEdit.run_keeps (policy : OnFailure) (edit : UpdateEdit)
    (replaces : edit.replacesNothing) :
    (edit.run policy).Keeps fun update => (Statement.update update).IsCoherent := by
  cases edit with
  | set =>
    simp only [UpdateEdit.run]
    exact .check (fun _ => rfl) fun _ => keeps_done fun _ bound => bound
  | setAll values =>
    simp only [UpdateEdit.run]
    refine .check (fun _ => rfl) fun values => keeps_done fun update bound => ?_
    rw [update.setAll_eq values]
    exact bound
  | setTable table =>
    simp only [UpdateEdit.run]
    exact keeps_done fun _ _ => Condition.map_rebind_isBoundTo _ _
  | setComment | setLimit =>
    simp only [UpdateEdit.run]
    exact keeps_done fun _ bound => bound
  | editFilter edits =>
    simp only [UpdateEdit.run]
    refine .returning (.within (fun update => Condition.IsBoundTo (some update.table))
      (fun _ => ConditionEdit.runAll_keeps policy edits replaces) ?_ ?_) _
    · exact fun update bound => Condition.getD_isBoundTo bound
    · rintro update filter - bound _ ⟨⟩
      exact bound
  | copy =>
    simp only [UpdateEdit.run]
    exact .check (fun _ => rfl) fun _ => .check (fun _ => rfl) fun _ => keeps_pure _
  | ask | inspect =>
    simp only [UpdateEdit.run]
    exact .check (fun _ => rfl) fun _ => Checks.keeps fun _ => rfl

theorem DeleteEdit.run_keeps (policy : OnFailure) (edit : DeleteEdit)
    (replaces : edit.replacesNothing) :
    (edit.run policy).Keeps fun delete => (Statement.delete delete).IsCoherent := by
  cases edit with
  | setTable table =>
    simp only [DeleteEdit.run]
    exact keeps_done fun _ _ => Condition.map_rebind_isBoundTo _ _
  | setComment | setLimit =>
    simp only [DeleteEdit.run]
    exact keeps_done fun _ bound => bound
  | editFilter edits =>
    simp only [DeleteEdit.run]
    refine .returning (.within (fun delete => Condition.IsBoundTo (some delete.table))
      (fun _ => ConditionEdit.runAll_keeps policy edits replaces) ?_ ?_) _
    · exact fun delete bound => Condition.getD_isBoundTo bound
    · rintro delete filter - bound _ ⟨⟩
      exact bound
  | copy =>
    simp only [DeleteEdit.run]
    exact .check (fun _ => rfl) fun _ => .check (fun _ => rfl) fun _ => keeps_pure _
  | ask | inspect =>
    simp only [DeleteEdit.run]
    exact .check (fun _ => rfl) fun _ => Checks.keeps fun _ => rfl

end BoundSql
