import BoundSql.Binding.Clause
import BoundSql.Proofs.Draft.Writing
import Mathlib.Data.List.ReduceOption
/-!
# Writing the drafts of names and clauses

The draft of each name and of each clause that holds no statement is written as the
text of that name or clause.
-/

namespace BoundSql

variable (dialect : Dialect)

/-! ### Names -/

namespace Piece

@[simp] theorem values_ofIdentifier (identifier : String) :
    (ofIdentifier identifier).values = [] := by
  unfold ofIdentifier
  split <;> rfl

@[simp] theorem values_ofParts (parts : List String) :
    (ofParts parts).flatMap values = [] := by
  induction parts with
  | nil => rfl
  | cons part rest ih =>
    cases rest with
    | nil => simp [ofParts]
    | cons next rest => simpa [ofParts] using ih

@[simp] theorem values_ofDotted (name : String) : (ofDotted name).flatMap values = [] := by
  unfold ofDotted
  split
  · rfl
  · exact values_ofParts _

@[simp] theorem values_ofAlias (aliasName : Option String) :
    (ofAlias aliasName).flatMap values = [] := by
  cases aliasName with
  | none => rfl
  | some aliasName => simp [ofAlias]

@[simp] theorem render_ofIdentifier (number : Nat) (identifier : String) :
    (ofIdentifier identifier).render dialect number = dialect.identifier identifier := by
  unfold ofIdentifier Dialect.identifier
  split <;> rfl

end Piece

namespace Draft

@[simp] theorem render_ofParts (number : Nat) (parts : List String) :
    render dialect number (Piece.ofParts parts) =
      ".".intercalate (parts.map dialect.identifier) := by
  induction parts with
  | nil => rfl
  | cons part rest ih =>
    cases rest with
    | nil => simp [Piece.ofParts, render]
    | cons next rest =>
      simp [Piece.ofParts, render, ih, String.append_assoc]

@[simp] theorem render_ofDotted (number : Nat) (name : String) :
    render dialect number (Piece.ofDotted name) = dialect.dotted name := by
  unfold Piece.ofDotted Dialect.dotted
  split
  · simp [render, Piece.render]
  · simp [Function.comp_def]

@[simp] theorem render_ofAlias (number : Nat) (aliasName : Option String) :
    render dialect number (Piece.ofAlias aliasName) = dialect.aliasText aliasName := by
  cases aliasName with
  | none => rfl
  | some aliasName => simp [Piece.ofAlias, render, Dialect.aliasText]

theorem write_pieces {pieces : List Piece} {text : String}
    (valueless : pieces.flatMap Piece.values = [])
    (rendered : ∀ number, render dialect number pieces = text) :
    write dialect { pieces } = pure text := by
  funext parameters
  simp [write, values_mk, valueless, rendered, pure, EStateM.pure]

@[simp] theorem write_ofAlias (aliasName : Option String) :
    write dialect { pieces := Piece.ofAlias aliasName } = pure (dialect.aliasText aliasName) :=
  write_pieces dialect (by simp) (by simp)

@[simp] theorem write_aliased (aliasName : String) (draft : Draft) :
    write dialect (draft.aliased aliasName) = do
      return (← write dialect draft) ++ dialect.aliasText (nonempty? aliasName) := by
  simp [aliased]

@[simp] theorem write_exists (select : Draft) :
    write dialect select.exists = do
      return "EXISTS (" ++ (← write dialect select) ++ ")" := by
  have opening : ∀ rest, "EXISTS " ++ ("(" ++ rest) = "EXISTS (" ++ rest := by
    simp [← String.append_assoc]
  simp [Draft.exists, String.append_assoc, opening]

@[simp] theorem write_negatedIf (negated : Bool) (draft : Draft) :
    write dialect (draft.negatedIf negated) = do
      return notIf negated ++ (← write dialect draft) := by
  cases negated <;> simp [negatedIf, notIf]

/-- What follows a table is written after the text that introduces the table. -/
theorem write_withTable (table : Table) {body : List Piece → Draft}
    {text : String → Binding String}
    (follows : ∀ source, write dialect { pieces := table.pieces } = pure source →
      write dialect (body table.pieces) = text source) :
    write dialect (withTable table body) =
      MonadExcept.ofExcept (table.text dialect) >>= text := by
  unfold withTable Table.text
  split
  · rfl
  · apply follows
    exact write_pieces dialect (by simp [Table.pieces]) (by simp [Table.pieces, render_append])

end Draft

@[simp] theorem Column.write_reference (column : Column) :
    column.reference.write dialect = pure (column.text dialect) := by
  unfold reference pieces text
  apply Draft.write_pieces <;> cases column.table <;>
    simp [Draft.render, Draft.render_append, String.append_assoc]

@[simp] theorem Column.write_selected (column : Column) :
    column.selected.write dialect = pure (column.selectedText dialect) := by
  have split : column.selected = column.reference ++
      { pieces := if column.isWildcard then [] else Piece.ofAlias column.aliasName } := rfl
  by_cases wild : column.isWildcard <;> simp [split, selectedText, wild]

/-! ### Clauses -/

@[simp] theorem SearchClause.write_draft (clause : SearchClause) :
    clause.draft.write dialect = clause.text dialect := by
  have opening : ∀ rest, "(" ++ ("MATCH(" ++ rest) = "(MATCH(" ++ rest := by
    simp [← String.append_assoc]
  simp [draft, body, text, String.append_assoc, Function.comp_def, opening]

theorem MembershipClause.text?_eq (clause : MembershipClause) :
    clause.text? dialect =
      if clause.isVoid then pure none else some <$> clause.draft.write dialect := by
  unfold text? draft body isVoid
  by_cases empty : clause.values.isEmpty <;> by_cases negated : clause.negated <;>
    simp [empty, negated, String.append_assoc, Function.comp_def]

@[simp] theorem MembershipClause.mapM_write_drafts (clauses : List MembershipClause) :
    (drafts clauses).mapM (Draft.write dialect) = do
      return (← clauses.mapM (text? dialect)).reduceOption := by
  unfold drafts
  induction clauses with
  | nil => simp
  | cons clause rest ih =>
    by_cases void : clause.isVoid
    · simpa [text?_eq, void] using ih
    · simp only [List.mapM_map] at ih
      simp [text?_eq, void, ih]

@[simp] theorem RangeClause.write_draft (clause : RangeClause) :
    clause.draft.write dialect = clause.text dialect := by
  simp [draft, body, text, String.append_assoc, -bind_pure_comp]

@[simp] theorem NullClause.write_draft (clause : NullClause) :
    clause.draft.write dialect = pure (clause.text dialect) := by
  simp [draft, body, text, String.append_assoc, -bind_pure_comp]

@[simp] theorem BitClause.write_draft (clause : BitClause) :
    clause.draft.write dialect = clause.text dialect := by
  have opening : ∀ rest, "(" ++ ("ISNULL(" ++ rest) = "(ISNULL(" ++ rest := by
    simp [← String.append_assoc]
  simp [draft, body, text, String.append_assoc, opening, -bind_pure_comp]

@[simp] theorem Count.write_draft (count : Count) :
    count.draft.write dialect = pure (count.text dialect) := by
  unfold draft text
  cases count.column <;> simp [String.append_assoc]

@[simp] theorem ValueColumn.write_draft (column : ValueColumn) :
    column.draft.write dialect = column.text dialect := by
  simp [draft, text]

@[simp] theorem FunctionColumn.write_draft (column : FunctionColumn) :
    column.draft.write dialect = pure (column.text dialect) := by
  unfold draft text
  split <;> simp [String.append_assoc]

@[simp] theorem OrderBy.write_draft (entry : OrderBy) :
    entry.draft.write dialect = pure (entry.text dialect) := by
  simp [draft, text, String.append_assoc, -bind_pure_comp]

@[simp] theorem Window.write_draft (window : Window) :
    window.draft.write dialect = window.text := by
  unfold draft text
  split <;> simp [String.append_assoc, -bind_pure_comp]

@[simp] theorem Draft.write_limit (limit : Option Nat) :
    (Draft.limit limit).write dialect = Binding.limit limit := by
  cases limit <;> simp [Draft.limit, Binding.limit]

@[simp] theorem Assignment.write_draft (assignment : Assignment) :
    assignment.draft.write dialect = assignment.text dialect := by
  simp [draft, text, String.append_assoc, -bind_pure_comp]

end BoundSql
