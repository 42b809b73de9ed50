import BoundSql.Draft.Statement
import BoundSql.Statement.WellFormed
import Mathlib.Data.List.Basic
/-!
# Finished drafts

A draft is finished if it lacks nothing.  A draft that is composed of others is finished
if all of them are, also those that are left out because they have no text.
-/

namespace BoundSql

/-- A draft without a failure. -/
def Draft.IsFinished (draft : Draft) : Prop :=
  draft.failure = none

/-! ### Composing -/

namespace Draft

@[simp] theorem isFinished_mk (pieces : List Piece) : IsFinished { pieces } := rfl

@[simp] theorem isFinished_ofText (content : String) : (ofText content).IsFinished := rfl

@[simp] theorem isFinished_ofValue (value : Value) : (ofValue value).IsFinished := rfl

@[simp] theorem not_isFinished_fail (lack : Lack) : ¬ (Draft.fail lack).IsFinished := by
  simp [IsFinished, Draft.fail]

@[simp] theorem isFinished_append (first second : Draft) :
    (first ++ second).IsFinished ↔ first.IsFinished ∧ second.IsFinished := by
  change (first.append second).IsFinished ↔ _
  rcases first with ⟨pieces, _ | lack⟩ <;> simp [append, IsFinished]

@[simp] theorem isFinished_parenthesized (draft : Draft) :
    draft.parenthesized.IsFinished ↔ draft.IsFinished := by
  simp [parenthesized]

@[simp] theorem isFinished_join (separator : String) (drafts : List Draft) :
    (join separator drafts).IsFinished ↔ ∀ draft ∈ drafts, draft.IsFinished := by
  induction drafts with
  | nil => simp [join]
  | cons draft rest ih =>
    cases rest with
    | nil => simp [join]
    | cons next rest =>
      rw [join_cons_cons, isFinished_append, ih]
      simp

@[simp] theorem isFinished_sequence (drafts : List Draft) :
    (sequence drafts).IsFinished ↔ ∀ draft ∈ drafts, draft.IsFinished := by
  induction drafts with
  | nil => simp [sequence]
  | cons draft rest ih =>
    have split : sequence (draft :: rest) = draft ++ sequence rest := rfl
    simp [split, ih]

theorem isFinished_of_isSilent {draft : Draft} (silent : draft.isSilent) : draft.IsFinished := by
  simp only [isSilent, Option.isNone_iff_eq_none, Bool.and_eq_true] at silent
  exact silent.1

@[simp] theorem isFinished_ledBy (lead : String) (draft : Draft) :
    (draft.ledBy lead).IsFinished ↔ draft.IsFinished := by
  unfold ledBy
  split
  · simp [isFinished_of_isSilent, *]
  · simp

@[simp] theorem isFinished_under (comment : Option String) (draft : Draft) :
    (draft.under comment).IsFinished ↔ draft.IsFinished := by
  cases comment <;> simp [under]

@[simp] theorem isFinished_grouped (draft : Draft) :
    (∀ group ∈ draft.grouped, group.IsFinished) ↔ draft.IsFinished := by
  unfold grouped
  split
  · simp [isFinished_of_isSilent, *]
  · simp

/-- Conditions that are left out are finished. -/
@[simp] theorem isFinished_allOf (conditions : List (Conjunction × Draft)) :
    (allOf conditions).IsFinished ↔ ∀ condition ∈ conditions, condition.2.IsFinished := by
  have leftOut : (∀ condition ∈ conditions.filter fun condition => !condition.2.isSilent,
      condition.2.IsFinished) ↔ ∀ condition ∈ conditions, condition.2.IsFinished := by
    simp only [List.mem_filter, Bool.not_eq_true', and_imp]
    refine forall₂_congr fun condition _ => ⟨fun shown => ?_, fun finished _ => finished⟩
    cases silent : condition.2.isSilent with
    | false => exact shown silent
    | true => exact isFinished_of_isSilent silent
  rw [← leftOut]
  simp only [allOf]
  generalize (conditions.filter fun condition => !condition.2.isSilent) = shown
  match shown with
  | [] => simp
  | [condition] => simp
  | first :: second :: rest =>
    have grouped : ∀ condition : Conjunction × Draft,
        (if condition.1 = .and then condition.2 else condition.2.parenthesized).IsFinished ↔
          condition.2.IsFinished := by
      intro condition
      split <;> simp
    rw [isFinished_join]
    simp only [List.forall_mem_map, grouped]

@[simp] theorem isFinished_columnList (columns : List Draft) :
    (columnList columns).IsFinished ↔ ∀ column ∈ columns, column.IsFinished := by
  unfold columnList
  split <;> simp

@[simp] theorem isFinished_ite (absent : Prop) [Decidable absent] (draft : Draft) :
    (if absent then {} else draft).IsFinished ↔ ¬ absent → draft.IsFinished := by
  split <;> simp [*]

theorem isFinished_withTable (table : Table) (body : List Piece → Draft) :
    (withTable table body).IsFinished ↔ table.IsNamed ∧ (body table.pieces).IsFinished := by
  unfold withTable Table.IsNamed
  split <;> simp_all

end Draft

/-! ### Clauses -/

/-! The clauses that hold no statement are finished whatever they hold. -/

@[simp] theorem Column.isFinished_reference (column : Column) : column.reference.IsFinished := rfl

@[simp] theorem Column.isFinished_selected (column : Column) : column.selected.IsFinished := rfl

namespace Draft

@[simp] theorem isFinished_aliased (aliasName : String) (draft : Draft) :
    (draft.aliased aliasName).IsFinished ↔ draft.IsFinished := by
  simp [aliased]

@[simp] theorem isFinished_exists (select : Draft) :
    select.exists.IsFinished ↔ select.IsFinished := by
  simp [Draft.exists]

@[simp] theorem isFinished_negatedIf (negated : Bool) (draft : Draft) :
    (draft.negatedIf negated).IsFinished ↔ draft.IsFinished := by
  cases negated <;> simp [negatedIf]

@[simp] theorem isFinished_comparison (subject : Column) (relation : Relation) (target : Draft) :
    (comparison subject relation target).IsFinished ↔ target.IsFinished := by
  simp [comparison]

@[simp] theorem isFinished_limit (limit : Option Nat) : (Draft.limit limit).IsFinished := by
  cases limit <;> simp [Draft.limit]

end Draft

@[simp] theorem SearchClause.isFinished_draft (clause : SearchClause) :
    clause.draft.IsFinished := by
  simp [draft, body]

@[simp] theorem MembershipClause.isFinished_draft (clause : MembershipClause) :
    clause.draft.IsFinished := by
  unfold draft
  split
  · split <;> simp
  · simp [body]

theorem MembershipClause.isFinished_drafts (clauses : List MembershipClause) :
    ∀ draft ∈ drafts clauses, draft.IsFinished := by
  simp only [drafts, List.forall_mem_map]
  exact fun clause _ => clause.isFinished_draft

@[simp] theorem RangeClause.isFinished_draft (clause : RangeClause) : clause.draft.IsFinished := by
  simp [draft, body]

@[simp] theorem NullClause.isFinished_draft (clause : NullClause) : clause.draft.IsFinished := by
  simp [draft, body]

@[simp] theorem BitClause.isFinished_draft (clause : BitClause) : clause.draft.IsFinished := by
  simp [draft, body]

@[simp] theorem ValueColumn.isFinished_draft (column : ValueColumn) :
    column.draft.IsFinished := by
  simp [draft]

@[simp] theorem FunctionColumn.isFinished_draft (column : FunctionColumn) :
    column.draft.IsFinished := by
  unfold draft
  split <;> simp

@[simp] theorem Count.isFinished_draft (count : Count) : count.draft.IsFinished := by
  unfold draft
  cases count.column <;> simp

@[simp] theorem OrderBy.isFinished_draft (entry : OrderBy) : entry.draft.IsFinished := by
  simp [draft]

@[simp] theorem Window.isFinished_draft (window : Window) : window.draft.IsFinished := by
  unfold draft
  split <;> simp

@[simp] theorem Assignment.isFinished_draft (assignment : Assignment) :
    assignment.draft.IsFinished := by
  simp [draft]

end BoundSql
