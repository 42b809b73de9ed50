import BoundSql.Edit.Run
import BoundSql.Proofs.Comments.Reading
/-!
# Comments on one line

A comment is put on one line when it is given.  All comments of a condition, SELECT or
statement are on one line if those of its parts are.
-/

namespace BoundSql

theorem Text.break_notMem_singleLine (text : String) : '\n' ∉ (singleLine text).toList := by
  simp only [singleLine, String.toList_ofList, List.mem_map, not_exists, not_and]
  intro char _ same
  split at same
  · exact absurd same (by decide)
  · next other => exact other (.inr same)

/-- A comment that was just given. -/
theorem Text.break_notMem_given (comment : String) :
    ∀ given ∈ some (singleLine comment), '\n' ∉ given.toList := by
  rintro _ ⟨⟩
  exact break_notMem_singleLine comment

/-! ### Supplied texts -/

namespace Supplied

@[simp] theorem areUnbroken_append {first second : List Supplied} :
    AreUnbroken (first ++ second) ↔ AreUnbroken first ∧ AreUnbroken second := by
  simp [AreUnbroken, or_imp, forall_and]

@[simp] theorem areUnbroken_flatMap {α : Type} {texts : α → List Supplied} {parts : List α} :
    AreUnbroken (parts.flatMap texts) ↔ ∀ part ∈ parts, AreUnbroken (texts part) := by
  unfold AreUnbroken
  exact List.forall_mem_flatMap

theorem areUnbroken_comment {comment : Option String} :
    AreUnbroken (comment.toList.map .comment) ↔ ∀ text ∈ comment, '\n' ∉ text.toList := by
  simp [AreUnbroken, isComment, text]

theorem areUnbroken_of_plain {supplied : List Supplied} (same : plain supplied = supplied) :
    AreUnbroken supplied := by
  intro given mem isComment
  have other := List.filter_eq_self.mp same given mem
  simp [isComment] at other

@[simp] theorem areUnbroken_table (table : Table) : AreUnbroken table.supplied :=
  areUnbroken_of_plain (plain_table table)

@[simp] theorem areUnbroken_referred (column : Column) : AreUnbroken column.referred :=
  areUnbroken_of_plain (plain_referred column)

@[simp] theorem areUnbroken_column (column : Column) : AreUnbroken column.supplied :=
  areUnbroken_of_plain (plain_column column)

@[simp] theorem areUnbroken_search (clause : SearchClause) : AreUnbroken clause.supplied :=
  areUnbroken_of_plain (plain_search clause)

@[simp] theorem areUnbroken_function (column : FunctionColumn) :
    AreUnbroken column.supplied :=
  areUnbroken_of_plain (plain_function column)

@[simp] theorem areUnbroken_count (count : Count) : AreUnbroken count.supplied :=
  areUnbroken_of_plain (plain_count count)

end Supplied

/-! ### Conditions and SELECTs -/

def Operand.IsUnbroken (operand : Operand) : Prop :=
  Supplied.AreUnbroken operand.supplied

def Condition.IsUnbroken (condition : Condition) : Prop :=
  Supplied.AreUnbroken condition.supplied

def Select.IsUnbroken (select : Select) : Prop :=
  Supplied.AreUnbroken select.supplied

theorem Operand.isUnbroken_value (value : Value) : (Operand.value value).IsUnbroken := by
  simp [IsUnbroken, supplied, Supplied.AreUnbroken]

theorem Operand.isUnbroken_column (column : Column) : (Operand.column column).IsUnbroken := by
  simp [IsUnbroken, supplied]

namespace Condition

theorem isUnbroken_iff {condition : Condition} :
    condition.IsUnbroken ↔
      (∀ clause ∈ condition.comparisons, clause.target.IsUnbroken) ∧
        (∀ clause ∈ condition.existences, clause.select.IsUnbroken) ∧
        ∀ subcondition ∈ condition.subconditions, subcondition.IsUnbroken := by
  have literals : Supplied.AreUnbroken (condition.literals.map .verbatim) :=
    Supplied.areUnbroken_of_plain (Supplied.plain_verbatim _)
  rw [IsUnbroken, supplied_eq]
  simp [ComparisonClause.supplied_eq, ExistenceClause.supplied_eq, suppliedAll_eq, literals,
    IsUnbroken, Operand.IsUnbroken, Select.IsUnbroken]

theorem areUnbroken_supplied? {condition : Option Condition} :
    Supplied.AreUnbroken (supplied? condition) ↔ ∀ one ∈ condition, one.IsUnbroken := by
  simp [supplied?_eq, IsUnbroken]

theorem isUnbroken_bound (table : Option Table) : (bound table).IsUnbroken := by
  rw [isUnbroken_iff]
  simp [bound]

theorem IsUnbroken.congr {condition other : Condition} (unbroken : condition.IsUnbroken)
    (comparisons : other.comparisons = condition.comparisons)
    (existences : other.existences = condition.existences)
    (subconditions : other.subconditions = condition.subconditions) : other.IsUnbroken := by
  rwa [isUnbroken_iff, comparisons, existences, subconditions, ← isUnbroken_iff]

theorem IsUnbroken.compare {condition : Condition} (unbroken : condition.IsUnbroken)
    {target : Operand} (targetUnbroken : target.IsUnbroken) (subject : Reference)
    (relation : Relation) : (condition.compare subject relation target).IsUnbroken := by
  rw [isUnbroken_iff] at unbroken ⊢
  refine ⟨?_, unbroken.2⟩
  simp only [Condition.compare, List.forall_mem_append, List.forall_mem_singleton]
  exact ⟨unbroken.1, targetUnbroken⟩

theorem IsUnbroken.addExistence {condition : Condition} (unbroken : condition.IsUnbroken)
    {select : Select} (selectUnbroken : select.IsUnbroken) (negated : Bool) :
    (condition.addExistence select negated).IsUnbroken := by
  rw [isUnbroken_iff] at unbroken ⊢
  refine ⟨unbroken.1, ?_, unbroken.2.2⟩
  simp only [Condition.addExistence, List.forall_mem_append, List.forall_mem_singleton]
  exact ⟨unbroken.2.1, selectUnbroken⟩

theorem IsUnbroken.addSubcondition {condition subcondition : Condition}
    (unbroken : condition.IsUnbroken) (added : subcondition.IsUnbroken) :
    (condition.addSubcondition subcondition).IsUnbroken := by
  rw [isUnbroken_iff] at unbroken ⊢
  refine ⟨unbroken.1, unbroken.2.1, ?_⟩
  simp only [Condition.addSubcondition, List.forall_mem_append, List.forall_mem_singleton]
  exact ⟨unbroken.2.2, added⟩

mutual

theorem supplied_rebind (table : Option Table) :
    (condition : Condition) → (condition.rebind table).supplied = condition.supplied
  | { subconditions, .. } => by
    simp [rebind, supplied, suppliedAll_rebindAll table subconditions]

theorem suppliedAll_rebindAll (table : Option Table) : (conditions : List Condition) →
    suppliedAll (rebindAll table conditions) = suppliedAll conditions
  | [] => rfl
  | condition :: rest => by
    simp [rebindAll, suppliedAll, supplied_rebind table condition,
      suppliedAll_rebindAll table rest]

end

theorem IsUnbroken.rebind {condition : Condition} (unbroken : condition.IsUnbroken)
    (table : Option Table) : (condition.rebind table).IsUnbroken := by
  rwa [IsUnbroken, supplied_rebind]

theorem map_rebind_isUnbroken {condition : Option Condition}
    (unbroken : ∀ one ∈ condition, one.IsUnbroken) (table : Option Table) :
    ∀ one ∈ condition.map (Condition.rebind table), one.IsUnbroken := by
  simpa [IsUnbroken, supplied_rebind] using unbroken

/-- A condition that comes into being if there is none. -/
theorem getD_isUnbroken {condition : Option Condition}
    (unbroken : ∀ one ∈ condition, one.IsUnbroken) (table : Option Table) :
    (condition.getD (.bound table)).IsUnbroken := by
  cases condition with
  | none => exact isUnbroken_bound table
  | some one => exact unbroken one rfl

end Condition

namespace Select

theorem isUnbroken_iff {select : Select} :
    select.IsUnbroken ↔
      (∀ comment ∈ select.comment, '\n' ∉ comment.toList) ∧ select.link.IsUnbroken ∧
        (∀ column ∈ select.queryColumns, column.select.IsUnbroken) ∧
        (∀ join ∈ select.joins, join.IsUnbroken) ∧
        (∀ filter ∈ select.filter, filter.IsUnbroken) ∧
        ∀ having ∈ select.having, having.IsUnbroken := by
  have queryColumns : ∀ column : QueryColumn,
      Supplied.AreUnbroken [.identifier column.aliasName] :=
    fun _ => Supplied.areUnbroken_of_plain rfl
  have valueColumns : Supplied.AreUnbroken
      (select.valueColumns.map fun column => .identifier column.aliasName) :=
    Supplied.areUnbroken_of_plain (Supplied.plain_map (fun _ => rfl) _)
  rw [IsUnbroken, supplied_eq]
  simp [QueryColumn.supplied_eq, suppliedAll_eq, queryColumns, valueColumns,
    Supplied.areUnbroken_comment, Condition.areUnbroken_supplied?, IsUnbroken,
    Condition.IsUnbroken]

theorem IsUnbroken.congr {select other : Select} (unbroken : select.IsUnbroken)
    (comment : other.comment = select.comment) (link : other.link = select.link)
    (queryColumns : other.queryColumns = select.queryColumns)
    (joins : other.joins = select.joins) (filter : other.filter = select.filter)
    (having : other.having = select.having) : other.IsUnbroken := by
  rwa [isUnbroken_iff, comment, link, queryColumns, joins, filter, having, ← isUnbroken_iff]

theorem isUnbroken_of_bound {select : Select} (comment : select.comment = none)
    (link : select.link.IsUnbroken) (queryColumns : select.queryColumns = [])
    (joins : select.joins = []) (filter : select.filter = none)
    (having : select.having = none) : select.IsUnbroken := by
  rw [isUnbroken_iff, comment, queryColumns, joins, filter, having]
  simpa using link

theorem start_isUnbroken (table : Option Table) : (SelectArgument.start table).IsUnbroken := by
  cases table with
  | none => exact isUnbroken_of_bound rfl (Condition.isUnbroken_bound none) rfl rfl rfl rfl
  | some table =>
    exact isUnbroken_of_bound rfl (Condition.isUnbroken_bound (some table)) rfl rfl rfl rfl

theorem joinOf_isUnbroken (table : Table) (columns : List String) (joinType : JoinType) :
    (joinOf table columns joinType).IsUnbroken := by
  rw [joinOf]
  split <;> exact (start_isUnbroken (some table)).congr rfl rfl rfl rfl rfl rfl

variable {select : Select}

theorem IsUnbroken.setTable (unbroken : select.IsUnbroken) (table : Table) :
    (select.setTable table).IsUnbroken := by
  rw [isUnbroken_iff] at unbroken ⊢
  obtain ⟨comment, link, queryColumns, joins, filter, having⟩ := unbroken
  exact ⟨comment, link.rebind _, queryColumns, joins,
    Condition.map_rebind_isUnbroken filter _, Condition.map_rebind_isUnbroken having _⟩

theorem IsUnbroken.setComment (unbroken : select.IsUnbroken) (comment : String) :
    (select.setComment comment).IsUnbroken := by
  rw [isUnbroken_iff] at unbroken ⊢
  exact ⟨Text.break_notMem_given comment, unbroken.2⟩

theorem IsUnbroken.addQueryColumn (unbroken : select.IsUnbroken) {query : Select}
    (queryUnbroken : query.IsUnbroken) (aliasName : String) :
    (select.addQueryColumn query aliasName).IsUnbroken := by
  rw [isUnbroken_iff] at unbroken ⊢
  refine ⟨unbroken.1, unbroken.2.1, ?_, unbroken.2.2.2⟩
  simp only [Select.addQueryColumn, List.forall_mem_append, List.forall_mem_singleton]
  exact ⟨unbroken.2.2.1, queryUnbroken⟩

theorem IsUnbroken.linkTo (unbroken : select.IsUnbroken) (reference : Reference)
    (target : Column) : (select.linkTo reference target).IsUnbroken := by
  rw [isUnbroken_iff] at unbroken ⊢
  obtain ⟨comment, link, others⟩ := unbroken
  exact ⟨comment, link.compare (Operand.isUnbroken_column target) _ _, others⟩

theorem IsUnbroken.setLink (unbroken : select.IsUnbroken) {link : Condition}
    (linkUnbroken : link.IsUnbroken) : IsUnbroken { select with link := link } := by
  rw [isUnbroken_iff] at unbroken ⊢
  exact ⟨unbroken.1, linkUnbroken, unbroken.2.2⟩

theorem IsUnbroken.setJoins (unbroken : select.IsUnbroken) {joins : List Select}
    (joinsUnbroken : ∀ join ∈ joins, join.IsUnbroken) :
    IsUnbroken { select with joins := joins } := by
  rw [isUnbroken_iff] at unbroken ⊢
  obtain ⟨comment, link, queryColumns, -, conditions⟩ := unbroken
  exact ⟨comment, link, queryColumns, joinsUnbroken, conditions⟩

theorem IsUnbroken.setFilter (unbroken : select.IsUnbroken) {filter : Condition}
    (filterUnbroken : filter.IsUnbroken) :
    IsUnbroken { select with filter := some filter } := by
  rw [isUnbroken_iff] at unbroken ⊢
  obtain ⟨comment, link, queryColumns, joins, -, having⟩ := unbroken
  refine ⟨comment, link, queryColumns, joins, ?_, having⟩
  rintro _ ⟨⟩
  exact filterUnbroken

theorem IsUnbroken.setHaving (unbroken : select.IsUnbroken) {having : Condition}
    (havingUnbroken : having.IsUnbroken) :
    IsUnbroken { select with having := some having } := by
  rw [isUnbroken_iff] at unbroken ⊢
  obtain ⟨comment, link, queryColumns, joins, filter, -⟩ := unbroken
  refine ⟨comment, link, queryColumns, joins, filter, ?_⟩
  rintro _ ⟨⟩
  exact havingUnbroken

theorem IsUnbroken.filterOrNew (unbroken : select.IsUnbroken) :
    select.filterOrNew.IsUnbroken := by
  obtain ⟨-, -, -, -, filter, -⟩ := isUnbroken_iff.mp unbroken
  exact Condition.getD_isUnbroken filter _

theorem IsUnbroken.havingUnder (unbroken : select.IsUnbroken) (conjunction : Conjunction) :
    (select.havingUnder conjunction).IsUnbroken := by
  obtain ⟨-, -, -, -, -, having⟩ := isUnbroken_iff.mp unbroken
  exact (Condition.getD_isUnbroken having _).congr rfl rfl rfl

end Select

end BoundSql
