import BoundSql.Edit.Script
/-!
# The tables of conditions

A condition and its subconditions each have a table of their own, to which bare column
names belong.  They are in order if it is the table of the statement, or of the join,
whose conditions they are.
-/

namespace BoundSql

namespace Condition

mutual

/-- A condition and its subconditions at every depth, each before its own. -/
def withNested : Condition → List Condition
  | condition@{ subconditions, .. } => condition :: withAllNested subconditions

def withAllNested : List Condition → List Condition
  | [] => []
  | condition :: rest => condition.withNested ++ withAllNested rest

end

/-- Bare names belong to the table, in the condition and in all its subconditions. -/
def IsBoundTo (table : Option Table) (condition : Condition) : Prop :=
  ∀ part ∈ condition.withNested, part.table = table

/-- The condition without its table and without its subconditions. -/
def clauses (condition : Condition) : Condition :=
  { condition with table := none, subconditions := [] }

theorem mem_withNested (condition : Condition) : condition ∈ condition.withNested := by
  cases condition
  exact List.mem_cons_self

theorem withAllNested_eq (conditions : List Condition) :
    withAllNested conditions = conditions.flatMap withNested := by
  induction conditions with
  | nil => rfl
  | cons condition rest ih => rw [withAllNested, ih, List.flatMap_cons]

theorem isBoundTo_iff {table : Option Table} {condition : Condition} :
    condition.IsBoundTo table ↔ condition.table = table ∧
      ∀ subcondition ∈ condition.subconditions, subcondition.IsBoundTo table := by
  cases condition
  simp only [IsBoundTo, withNested, withAllNested_eq, List.forall_mem_cons,
    List.forall_mem_flatMap]

theorem IsBoundTo.table_eq {table : Option Table} {condition : Condition}
    (bound : condition.IsBoundTo table) : condition.table = table :=
  (isBoundTo_iff.mp bound).1

/-- Only the tables matter. -/
theorem IsBoundTo.congr {table : Option Table} {condition other : Condition}
    (bound : condition.IsBoundTo table) (same : other.table = condition.table)
    (parts : other.subconditions = condition.subconditions) : other.IsBoundTo table := by
  rw [isBoundTo_iff] at bound ⊢
  rw [same, parts]
  exact bound

theorem isBoundTo_of_no_subcondition {condition : Condition}
    (none : condition.subconditions = []) : condition.IsBoundTo condition.table :=
  isBoundTo_iff.mpr ⟨rfl, by simp [none]⟩

theorem IsBoundTo.addSubcondition {table : Option Table} {condition subcondition : Condition}
    (bound : condition.IsBoundTo table) (added : subcondition.IsBoundTo table) :
    (condition.addSubcondition subcondition).IsBoundTo table := by
  rw [isBoundTo_iff] at bound ⊢
  refine ⟨bound.1, ?_⟩
  simp only [Condition.addSubcondition, List.forall_mem_append, List.forall_mem_singleton]
  exact ⟨bound.2, added⟩

mutual

theorem rebind_isBoundTo (table : Option Table) :
    (condition : Condition) → (condition.rebind table).IsBoundTo table
  | { subconditions, .. } => by
    rw [isBoundTo_iff]
    exact ⟨rfl, rebindAll_isBoundTo table subconditions⟩

theorem rebindAll_isBoundTo (table : Option Table) (conditions : List Condition) :
    ∀ condition ∈ rebindAll table conditions, condition.IsBoundTo table := by
  cases conditions with
  | nil => simp [rebindAll]
  | cons condition rest =>
    rw [rebindAll, List.forall_mem_cons]
    exact ⟨rebind_isBoundTo table condition, rebindAll_isBoundTo table rest⟩

end

theorem map_rebind_isBoundTo (table : Option Table) (condition : Option Condition) :
    ∀ rebound ∈ condition.map (rebind table), rebound.IsBoundTo table := by
  intro rebound mem
  obtain ⟨one, -, rfl⟩ := Option.map_eq_some_iff.mp mem
  exact rebind_isBoundTo table one

mutual

theorem clauses_rebind (table : Option Table) :
    (condition : Condition) →
      (condition.rebind table).withNested.map clauses = condition.withNested.map clauses
  | { subconditions, .. } => by
    simp only [rebind, withNested, List.map_cons, clauses_rebindAll table subconditions,
      clauses]

theorem clauses_rebindAll (table : Option Table) (conditions : List Condition) :
    (withAllNested (rebindAll table conditions)).map clauses =
      (withAllNested conditions).map clauses := by
  cases conditions with
  | nil => rfl
  | cons condition rest =>
    simp only [rebindAll, withAllNested, List.map_append, clauses_rebind table condition,
      clauses_rebindAll table rest]

end

theorem clauses_map_rebind (table : Option Table) (condition : Option Condition) :
    ((condition.map (rebind table)).toList.flatMap withNested).map clauses =
      (condition.toList.flatMap withNested).map clauses := by
  cases condition with
  | none => rfl
  | some condition => simp [clauses_rebind]

end Condition

namespace Select

/-- The conditions that a SELECT has itself: that on which it is joined, and those of WHERE
and HAVING. -/
def conditions (select : Select) : List Condition :=
  select.link :: (select.filter.toList ++ select.having.toList)

/-- Every condition of the SELECT, and of each of its joins at any depth, belongs to the
table of that SELECT. -/
def IsCoherent (select : Select) : Prop :=
  ∀ part ∈ select.flattened, ∀ condition ∈ part.conditions, condition.IsBoundTo part.table

theorem withAllJoins_eq (selects : List Select) :
    withAllJoins selects = selects.flatMap flattened := by
  induction selects with
  | nil => rfl
  | cons select rest ih =>
    rw [withAllJoins, ih, List.flatMap_cons, flattened, List.cons_append]

theorem isCoherent_iff {select : Select} :
    select.IsCoherent ↔ select.link.IsBoundTo select.table ∧
      (∀ filter ∈ select.filter, filter.IsBoundTo select.table) ∧
      (∀ having ∈ select.having, having.IsBoundTo select.table) ∧
      ∀ join ∈ select.joins, join.IsCoherent := by
  cases select
  simp only [IsCoherent, flattened, allJoins, withAllJoins_eq, List.forall_mem_cons,
    List.forall_mem_flatMap, conditions, List.forall_mem_append, Option.mem_toList,
    Option.mem_def, and_assoc]

/-- Only tables, conditions and joins matter. -/
theorem IsCoherent.congr {select other : Select} (coherent : select.IsCoherent)
    (table : other.table = select.table) (link : other.link = select.link)
    (filter : other.filter = select.filter) (having : other.having = select.having)
    (joins : other.joins = select.joins) : other.IsCoherent := by
  rw [isCoherent_iff] at coherent ⊢
  rw [table, link, filter, having, joins]
  exact coherent

/-- A SELECT without joins in which no condition is restricted. -/
theorem isCoherent_of_bound {select : Select} (bound : select.link.IsBoundTo select.table)
    (filter : select.filter = none) (having : select.having = none)
    (joins : select.joins = []) : select.IsCoherent := by
  rw [isCoherent_iff, filter, having, joins]
  exact ⟨bound, by simp, by simp, by simp⟩

end Select

/-- Every condition of the statement itself belongs to its table.  Statements of the
remaining kinds have no conditions of their own. -/
def Statement.IsCoherent : Statement → Prop
  | .select statement => statement.IsCoherent
  | .update statement =>
    ∀ filter ∈ statement.filter, filter.IsBoundTo (some statement.table)
  | .delete statement =>
    ∀ filter ∈ statement.filter, filter.IsBoundTo (some statement.table)
  | .insert _ | .combination _ | .difference _ => True

/-! ### Edits that put no condition in place of another -/

mutual

def ConditionEdit.replacesNothing : ConditionEdit → Bool
  | .addSubcondition _ edits => ConditionEdit.replaceNothing edits
  | .replace _ => false
  | _ => true

def ConditionEdit.replaceNothing : List ConditionEdit → Bool
  | [] => true
  | edit :: rest => edit.replacesNothing && ConditionEdit.replaceNothing rest

end

mutual

/-- The edits of copies and of subqueries are not looked at. -/
def SelectEdit.replacesNothing : SelectEdit → Bool
  | .join _ _ _ _ _ edits => SelectEdit.replaceNothing edits
  | .crossJoin _ _ edits => SelectEdit.replaceNothing edits
  | .addJoin child _ _ edits => child.replacesNothing && SelectEdit.replaceNothing edits
  | .editOn edits => ConditionEdit.replaceNothing edits
  | .editFilter edits => ConditionEdit.replaceNothing edits
  | .editHaving _ edits => ConditionEdit.replaceNothing edits
  | .editHavingNamed _ edits => ConditionEdit.replaceNothing edits
  | _ => true

def SelectEdit.replaceNothing : List SelectEdit → Bool
  | [] => true
  | edit :: rest => edit.replacesNothing && SelectEdit.replaceNothing rest

def SelectArgument.replacesNothing : SelectArgument → Bool
  | { edits, .. } => SelectEdit.replaceNothing edits

end

def UpdateEdit.replacesNothing : UpdateEdit → Bool
  | .editFilter edits => ConditionEdit.replaceNothing edits
  | _ => true

def DeleteEdit.replacesNothing : DeleteEdit → Bool
  | .editFilter edits => ConditionEdit.replaceNothing edits
  | _ => true

end BoundSql
