import BoundSql.Proofs.Context.Basic
import BoundSql.Proofs.Editing
import Mathlib.Data.List.Forall2
/-!
# Clauses that are added to conditions

What a condition holds after clauses are added to it, said without the operations that add
them.  A bare name stands for a column of the table to which the condition belongs, and a
subcondition belongs to that table, too.
-/

namespace BoundSql

open Editing

/-- The column that an argument means where bare names belong to a table. -/
inductive ColumnArgument.Means (table : Option Table) : ColumnArgument → Column → Prop
  | bare (name : String) : Means table (.bare name) { name, table }
  | spelled {spelling : ColumnSpelling} {column : Column} (built : spelling.column = .ok column) :
      Means table (.spelled spelling) column

mutual

/-- An edit adds a clause to a condition: it stands after those of its kind with the columns
that are meant, and nothing else changes. -/
inductive ConditionEdit.Adds (table : Option Table) : ConditionEdit → Condition → Condition → Prop
  | comparison {subject : ColumnArgument} {column : Column} {target : OperandArgument}
      {operand : Operand} (relation : Relation) (condition : Condition)
      (means : subject.Means table column) (works : target.operand.result = .ok operand) :
      Adds table (.compare subject relation target) condition
        { condition with
          comparisons := condition.comparisons ++
            [{ subject := column, relation, target := operand }] }
  | membership {subject : ColumnArgument} {column : Column} (values : List Value)
      (negated : Bool) (condition : Condition) (means : subject.Means table column) :
      Adds table (.addMembership subject values negated) condition
        { condition with
          memberships := condition.memberships ++ [{ subject := column, values, negated }] }
  | range {subject : ColumnArgument} {column : Column} (low high : Value) (negated : Bool)
      (condition : Condition) (means : subject.Means table column) :
      Adds table (.addRange subject low high negated) condition
        { condition with
          ranges := condition.ranges ++ [{ subject := column, low, high, negated }] }
  | nullCheck {subject : ColumnArgument} {column : Column} (negated : Bool)
      (condition : Condition) (means : subject.Means table column) :
      Adds table (.addNullCheck subject negated) condition
        { condition with
          nullChecks := condition.nullChecks ++ [{ subject := column, negated }] }
  | bit {subject : ColumnArgument} {column : Column} (value : Value) (condition : Condition)
      (means : subject.Means table column) :
      Adds table (.addBit subject value) condition
        { condition with bits := condition.bits ++ [{ subject := column, value }] }
  | search {subjects : List ColumnArgument} {columns : List Column} (values : List Value)
      (mode : SearchMode) (condition : Condition)
      (means : List.Forall₂ (ColumnArgument.Means table) subjects columns) :
      Adds table (.addSearch subjects values mode) condition
        { condition with searches := condition.searches ++ [{ columns, values, mode }] }
  | subcondition {edits : List ConditionEdit} {conjunction : Conjunction}
      {subcondition : Condition} (condition : Condition)
      (adds : ConditionEdit.AddAll table edits { table, conjunction } subcondition) :
      Adds table (.addSubcondition conjunction edits) condition
        { condition with subconditions := condition.subconditions ++ [subcondition] }

/-- Edits add clauses one after the other. -/
inductive ConditionEdit.AddAll (table : Option Table) :
    List ConditionEdit → Condition → Condition → Prop
  | nil (condition : Condition) : AddAll table [] condition condition
  | cons {edit : ConditionEdit} {rest : List ConditionEdit} {condition next final : Condition}
      (first : edit.Adds table condition next) (others : AddAll table rest next final) :
      AddAll table (edit :: rest) condition final

end

variable {table : Option Table}

theorem ColumnArgument.Means.resolves {argument : ColumnArgument} {column : Column}
    (means : argument.Means table column) :
    ∃ reference, argument.reference = .ok reference ∧ reference.resolve table = column := by
  cases means with
  | bare name => exact ⟨.bare name, rfl, rfl⟩
  | spelled built =>
    refine ⟨.column column, ?_, rfl⟩
    rw [reference, built]
    rfl

theorem ColumnArgument.Means.resolve_all {arguments : List ColumnArgument}
    {columns : List Column} (means : List.Forall₂ (Means table) arguments columns) :
    ∃ references, ColumnArgument.references arguments = .ok references ∧
      references.map (·.resolve table) = columns := by
  induction means with
  | nil => exact ⟨[], rfl, rfl⟩
  | cons first _ ih =>
    obtain ⟨reference, worked, rfl⟩ := first.resolves
    obtain ⟨references, others, rfl⟩ := ih
    refine ⟨reference :: references, ?_, rfl⟩
    rw [ColumnArgument.references, worked, others]
    rfl

namespace ConditionEdit

theorem Adds.table_eq {edit : ConditionEdit} {condition final : Condition}
    (adds : edit.Adds table condition final) : final.table = condition.table := by
  cases adds <;> rfl

/-- An edit whose column is worked out leads to what is done with it. -/
theorem leads_of_means {argument : ColumnArgument} {column : Column}
    (means : argument.Means table column) {condition final : Condition}
    {next : Reference → Editing Condition Reply} {reply : Reply}
    (leads : ∀ reference : Reference, reference.resolve table = column →
      (next reference).Leads condition reply final) :
    (do
      let reference ← argument.reference
      next reference : Editing Condition Reply).Leads condition reply final := by
  obtain ⟨reference, worked, same⟩ := means.resolves
  rw [worked, ok_bind]
  exact leads reference same

mutual

theorem Adds.leads (policy : OnFailure) : {edit : ConditionEdit} → {condition final : Condition} →
    edit.Adds table condition final → condition.table = table →
    ∃ reply, (edit.run policy).Leads condition reply final
  | _, _, _, .comparison relation _ means works, bound => by
    refine ⟨.done, ?_⟩
    simp only [ConditionEdit.run]
    refine leads_of_means means fun reference same => ?_
    subst bound same
    exact Leads.bind ⟨works, rfl⟩ ⟨rfl, rfl⟩
  | _, _, _, .membership _ _ _ means, bound | _, _, _, .range _ _ _ _ means, bound
  | _, _, _, .nullCheck _ _ means, bound | _, _, _, .bit _ _ means, bound => by
    refine ⟨.done, ?_⟩
    simp only [ConditionEdit.run]
    refine leads_of_means means fun reference same => ?_
    subst bound same
    exact ⟨rfl, rfl⟩
  | _, _, _, .search values mode _ means, bound => by
    obtain ⟨references, worked, rfl⟩ := ColumnArgument.Means.resolve_all means
    subst bound
    refine ⟨.done, ?_⟩
    simp only [ConditionEdit.run]
    rw [worked, ok_bind]
    exact ⟨rfl, rfl⟩
  | _, _, _, @Adds.subcondition _ edits conjunction subcondition condition adds, bound => by
    obtain ⟨replies, leads⟩ := AddAll.leads policy adds rfl
    subst bound
    refine ⟨.within replies, ?_⟩
    simp only [ConditionEdit.run]
    -- A subcondition starts without clauses and with the table of the condition.
    have added : (Editing.within (·.nested conjunction) Condition.addSubcondition
        (ConditionEdit.runAll policy edits)).Leads condition replies
          (condition.addSubcondition subcondition) := Leads.within leads
    exact added.bind (leads_pure _ _)

/-- Edits that add clauses to a condition of a table leave what they add. -/
theorem AddAll.leads (policy : OnFailure) : {edits : List ConditionEdit} →
    {condition final : Condition} → AddAll table edits condition final →
    condition.table = table →
    ∃ replies, (ConditionEdit.runAll policy edits).Leads condition replies final
  | _, condition, _, .nil _, _ => ⟨[], leads_pure [] condition⟩
  | _, _, _, .cons first others, bound => by
    obtain ⟨reply, leads⟩ := first.leads policy bound
    obtain ⟨replies, lead⟩ := others.leads policy (first.table_eq.trans bound)
    refine ⟨reply :: replies, ?_⟩
    simp only [ConditionEdit.runAll]
    exact (leads.settle policy).bind (lead.bind (leads_pure _ _))

end

end ConditionEdit

end BoundSql
