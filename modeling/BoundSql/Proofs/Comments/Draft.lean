import BoundSql.Proofs.Draft.Piecewise
import BoundSql.Proofs.Draft.Statements
/-!
# Drafts without comments

Each way of composing drafts composes what is left of them without comments in the same
way.  A draft with no text is left out where it stands after a keyword or between
parentheses, so it must not be a comment that makes for the text.  A `Steady` draft has
no comment, or has a text that is none.
-/

namespace BoundSql

def Piece.isRemark : Piece → Bool
  | .remark _ => true
  | _ => false

namespace Draft

/-- A draft without its comments. -/
def uncommented (draft : Draft) : Draft :=
  { pieces := draft.pieces.filter (!·.isRemark), failure := draft.failure }

/-- A draft that can be seen, or else has no comment. -/
def Steady (draft : Draft) : Prop :=
  draft.uncommented = draft ∨ draft.uncommented.Visible

/-! ### Composing -/

@[simp] theorem uncommented_empty : uncommented {} = {} := rfl

@[simp] theorem uncommented_fail (lack : Lack) :
    (Draft.fail lack).uncommented = .fail lack := rfl

@[simp] theorem uncommented_ofText (content : String) :
    (ofText content).uncommented = ofText content := rfl

@[simp] theorem uncommented_ofValue (value : Value) :
    (ofValue value).uncommented = ofValue value := rfl

@[simp] theorem uncommented_append (first second : Draft) :
    (first ++ second).uncommented = first.uncommented ++ second.uncommented := by
  change (first.append second).uncommented = first.uncommented.append second.uncommented
  rcases first with ⟨pieces, _ | lack⟩
  · simp [append, uncommented]
  · rfl

theorem isPiecewise_uncommented : IsPiecewise uncommented where
  empty := rfl
  fail _ := rfl
  ofText _ := rfl
  append := uncommented_append

@[simp] theorem uncommented_parenthesized (draft : Draft) :
    draft.parenthesized.uncommented = draft.uncommented.parenthesized :=
  isPiecewise_uncommented.parenthesized draft

@[simp] theorem uncommented_exists (select : Draft) :
    select.exists.uncommented = select.uncommented.exists :=
  isPiecewise_uncommented.exists select

@[simp] theorem uncommented_negatedIf (negated : Bool) (draft : Draft) :
    (draft.negatedIf negated).uncommented = draft.uncommented.negatedIf negated :=
  isPiecewise_uncommented.negatedIf negated draft

@[simp] theorem uncommented_join (separator : String) (drafts : List Draft) :
    (join separator drafts).uncommented = join separator (drafts.map uncommented) :=
  isPiecewise_uncommented.join separator drafts

@[simp] theorem uncommented_sequence (drafts : List Draft) :
    (sequence drafts).uncommented = sequence (drafts.map uncommented) :=
  isPiecewise_uncommented.sequence drafts

theorem under_none (draft : Draft) : draft.under none = draft := rfl

@[simp] theorem uncommented_under (comment : Option String) (draft : Draft) :
    (draft.under comment).uncommented = draft.uncommented := by
  cases comment with
  | none => rfl
  | some comment => exact uncommented_append _ _

/-- A clause that can be left out. -/
@[simp] theorem uncommented_ite (absent : Prop) [Decidable absent] (draft : Draft) :
    (if absent then {} else draft).uncommented = if absent then {} else draft.uncommented :=
  isPiecewise_uncommented.ite absent draft

theorem withTable_uncommented {table : Table} {body bare : List Piece → Draft}
    (same : bare table.pieces = (body table.pieces).uncommented) :
    withTable table bare = (withTable table body).uncommented :=
  isPiecewise_uncommented.withTable same

/-! ### What can be seen -/

theorem visible_of_uncommented {draft : Draft} (visible : draft.uncommented.Visible) :
    draft.Visible := by
  obtain failed | ⟨piece, mem, solid⟩ := visible
  · exact .inl failed
  · exact .inr ⟨piece, List.mem_of_mem_filter mem, solid⟩

theorem Steady.isSilent_uncommented {draft : Draft} (steady : draft.Steady) :
    draft.uncommented.isSilent = draft.isSilent := by
  obtain same | visible := steady
  · rw [same]
  · rw [isSilent_eq_false_of_visible visible,
      isSilent_eq_false_of_visible (visible_of_uncommented visible)]

theorem steady_join {separator : String} (nonempty : separator ≠ "") {drafts : List Draft}
    (steady : ∀ draft ∈ drafts, draft.Steady) : (join separator drafts).Steady := by
  rcases drafts with _ | ⟨first, _ | ⟨second, rest⟩⟩
  · exact .inl rfl
  · exact steady first (by simp)
  · refine .inr ?_
    rw [uncommented_join]
    exact visible_join nonempty ..

theorem steady_allOf {conditions : List (Conjunction × Draft)}
    (steady : ∀ condition ∈ conditions, condition.2.Steady) : (allOf conditions).Steady := by
  have shownSteady : ∀ condition ∈ conditions.filter fun condition => !condition.2.isSilent,
      condition.2.Steady :=
    fun condition mem => steady condition (List.mem_of_mem_filter mem)
  simp only [allOf]
  generalize (conditions.filter fun condition => !condition.2.isSilent) = shown at shownSteady
  rcases shown with _ | ⟨first, _ | ⟨second, rest⟩⟩
  · exact .inl rfl
  · exact shownSteady first (by simp)
  · refine .inr ?_
    rw [uncommented_join]
    exact visible_join (by decide) ..

theorem Steady.uncommented_ledBy {draft : Draft} (steady : draft.Steady) (lead : String) :
    (draft.ledBy lead).uncommented = draft.uncommented.ledBy lead :=
  isPiecewise_uncommented.ledBy lead steady.isSilent_uncommented

theorem Steady.map_uncommented_grouped {draft : Draft} (steady : draft.Steady) :
    draft.grouped.map uncommented = draft.uncommented.grouped :=
  isPiecewise_uncommented.grouped steady.isSilent_uncommented

theorem uncommented_allOf {conditions : List (Conjunction × Draft)}
    (steady : ∀ condition ∈ conditions, condition.2.Steady) :
    (allOf conditions).uncommented =
      allOf (conditions.map fun (conjunction, draft) => (conjunction, draft.uncommented)) :=
  isPiecewise_uncommented.allOf fun condition mem => (steady condition mem).isSilent_uncommented

/-- The empty name alone cannot be seen. -/
theorem Steady.eq_nameless_iff {column : Draft} (steady : column.Steady) :
    column.uncommented = { pieces := [.name ""] } ↔ column = { pieces := [.name ""] } := by
  constructor
  · intro nameless
    obtain same | visible := steady
    · rw [← same, nameless]
    · rw [nameless] at visible
      simp [Visible, Piece.isSolid] at visible
  · rintro rfl
    rfl

theorem uncommented_columnList {columns : List Draft}
    (steady : ∀ column ∈ columns, column.Steady) :
    (columnList columns).uncommented = columnList (columns.map uncommented) :=
  isPiecewise_uncommented.columnList rfl (fun column mem => (steady column mem).eq_nameless_iff)
    (steady_join (by decide) steady).isSilent_uncommented

end Draft

/-! ### Names -/

namespace Piece

@[simp] theorem isRemark_ofIdentifier (identifier : String) :
    (ofIdentifier identifier).isRemark = false := by
  unfold ofIdentifier
  split <;> rfl

@[simp] theorem filter_ofParts (parts : List String) :
    (ofParts parts).filter (!·.isRemark) = ofParts parts := by
  induction parts with
  | nil => rfl
  | cons part rest ih =>
    cases rest with
    | nil => simp [ofParts]
    | cons next rest =>
      have point : (text ".").isRemark = false := rfl
      simp [ofParts, ih, point]

@[simp] theorem filter_ofDotted (name : String) :
    (ofDotted name).filter (!·.isRemark) = ofDotted name := by
  unfold ofDotted
  split
  · rfl
  · exact filter_ofParts _

@[simp] theorem filter_ofAlias (aliasName : Option String) :
    (ofAlias aliasName).filter (!·.isRemark) = ofAlias aliasName := by
  cases aliasName with
  | none => rfl
  | some aliasName =>
    have keyword : (text " AS ").isRemark = false := rfl
    simp [ofAlias, keyword]

end Piece

@[simp] theorem Column.filter_pieces (column : Column) :
    column.pieces.filter (!·.isRemark) = column.pieces := by
  have point : (Piece.text ".").isRemark = false := rfl
  unfold pieces
  cases column.table <;> simp [point]

namespace Draft

@[simp] theorem uncommented_reference (column : Column) :
    column.reference.uncommented = column.reference := by
  simp [uncommented, Column.reference]

@[simp] theorem uncommented_selected (column : Column) :
    column.selected.uncommented = column.selected := by
  unfold uncommented Column.selected
  cases column.isWildcard <;> simp

@[simp] theorem uncommented_pieces (table : Table) :
    uncommented { pieces := table.pieces } = { pieces := table.pieces } := by
  simp [uncommented, Table.pieces]

@[simp] theorem uncommented_ofAlias (aliasName : Option String) :
    uncommented { pieces := Piece.ofAlias aliasName } = { pieces := Piece.ofAlias aliasName } := by
  simp [uncommented]

@[simp] theorem uncommented_aliased (aliasName : String) (draft : Draft) :
    (draft.aliased aliasName).uncommented = draft.uncommented.aliased aliasName := by
  simp [aliased]

end Draft

/-! ### Clauses that hold no statement -/

@[simp] theorem SearchClause.uncommented_draft (clause : SearchClause) :
    clause.draft.uncommented = clause.draft := by
  simp [draft, body, Function.comp_def]

@[simp] theorem MembershipClause.uncommented_draft (clause : MembershipClause) :
    clause.draft.uncommented = clause.draft := by
  unfold draft
  split
  · split <;> rfl
  · simp [body, Function.comp_def]

@[simp] theorem RangeClause.uncommented_draft (clause : RangeClause) :
    clause.draft.uncommented = clause.draft := by
  simp [draft, body]

@[simp] theorem NullClause.uncommented_draft (clause : NullClause) :
    clause.draft.uncommented = clause.draft := by
  simp [draft, body]

@[simp] theorem BitClause.uncommented_draft (clause : BitClause) :
    clause.draft.uncommented = clause.draft := by
  simp [draft, body]

@[simp] theorem ValueColumn.uncommented_draft (column : ValueColumn) :
    column.draft.uncommented = column.draft := by
  simp [draft]

@[simp] theorem FunctionColumn.uncommented_draft (column : FunctionColumn) :
    column.draft.uncommented = column.draft := by
  unfold draft
  split <;> simp [Function.comp_def]

@[simp] theorem Count.uncommented_draft (count : Count) :
    count.draft.uncommented = count.draft := by
  unfold draft
  cases count.column <;> simp

@[simp] theorem OrderBy.uncommented_draft (entry : OrderBy) :
    entry.draft.uncommented = entry.draft := by
  simp [draft]

@[simp] theorem Window.uncommented_draft (window : Window) :
    window.draft.uncommented = window.draft := by
  unfold draft
  split <;> simp

@[simp] theorem Draft.uncommented_limit (limit : Option Nat) :
    (Draft.limit limit).uncommented = Draft.limit limit := by
  cases limit <;> simp [Draft.limit]

@[simp] theorem Assignment.uncommented_draft (assignment : Assignment) :
    assignment.draft.uncommented = assignment.draft := by
  simp [draft]

end BoundSql
