import BoundSql.Draft.Select
/-!
# Changing drafts piece by piece

A change that is made on each part of a draft alone, and leaves what is written around
the parts, passes through each way of composing drafts.  A draft without text can be
left out, so there the change must not make for the text.
-/

namespace BoundSql

namespace Draft

/-- A change of drafts that is made on each part alone, and leaves texts and failures. -/
structure IsPiecewise (change : Draft → Draft) : Prop where
  empty : change {} = {}
  fail : ∀ lack, change (fail lack) = fail lack
  ofText : ∀ content, change (ofText content) = ofText content
  append : ∀ first second, change (first ++ second) = change first ++ change second

section

variable {change : Draft → Draft} (piecewise : IsPiecewise change)
include piecewise

theorem IsPiecewise.parenthesized (draft : Draft) :
    change draft.parenthesized = (change draft).parenthesized := by
  simp only [Draft.parenthesized, piecewise.append, piecewise.ofText]

theorem IsPiecewise.exists (select : Draft) : change select.exists = (change select).exists := by
  simp only [Draft.exists, piecewise.append, piecewise.ofText, piecewise.parenthesized]

theorem IsPiecewise.negatedIf (negated : Bool) (draft : Draft) :
    change (draft.negatedIf negated) = (change draft).negatedIf negated := by
  cases negated with
  | false => rfl
  | true => simp only [Draft.negatedIf, if_true, piecewise.append, piecewise.ofText]

theorem IsPiecewise.join (separator : String) (drafts : List Draft) :
    change (join separator drafts) = Draft.join separator (drafts.map change) := by
  induction drafts with
  | nil => exact piecewise.empty
  | cons draft rest ih =>
    cases rest with
    | nil => rfl
    | cons next rest =>
      simp only [List.map_cons] at ih ⊢
      rw [join_cons_cons, join_cons_cons, piecewise.append, piecewise.append, piecewise.ofText, ih]

theorem IsPiecewise.sequence (drafts : List Draft) :
    change (sequence drafts) = Draft.sequence (drafts.map change) := by
  induction drafts with
  | nil => exact piecewise.empty
  | cons draft rest ih =>
    show change (draft ++ Draft.sequence rest) =
      change draft ++ Draft.sequence (rest.map change)
    rw [piecewise.append, ih]

/-- A clause that can be left out. -/
theorem IsPiecewise.ite (absent : Prop) [Decidable absent] (draft : Draft) :
    change (if absent then {} else draft) = if absent then {} else change draft := by
  split
  · exact piecewise.empty
  · rfl

theorem IsPiecewise.withTable {table : Table} {body changed : List Piece → Draft}
    (same : changed table.pieces = change (body table.pieces)) :
    withTable table changed = change (withTable table body) := by
  unfold Draft.withTable
  split
  · exact (piecewise.fail .tableName).symm
  · exact same

/-! ### Drafts that can be left out -/

theorem IsPiecewise.ledBy (lead : String) {draft : Draft}
    (silent : (change draft).isSilent = draft.isSilent) :
    change (draft.ledBy lead) = (change draft).ledBy lead := by
  unfold Draft.ledBy
  rw [silent]
  split
  · exact piecewise.empty
  · rw [piecewise.append, piecewise.ofText]

theorem IsPiecewise.grouped {draft : Draft} (silent : (change draft).isSilent = draft.isSilent) :
    draft.grouped.map change = (change draft).grouped := by
  unfold Draft.grouped
  rw [silent]
  split
  · rfl
  · rw [List.map_singleton, piecewise.parenthesized]

theorem IsPiecewise.allOf {conditions : List (Conjunction × Draft)}
    (silent : ∀ condition ∈ conditions, (change condition.2).isSilent = condition.2.isSilent) :
    change (allOf conditions) =
      Draft.allOf (conditions.map fun (conjunction, draft) => (conjunction, change draft)) := by
  have shown : conditions.filter (fun condition => !(change condition.2).isSilent) =
      conditions.filter fun condition => !condition.2.isSilent := by
    apply List.filter_congr
    intro condition mem
    rw [silent condition mem]
  simp only [Draft.allOf, List.filter_map, Function.comp_def, shown]
  generalize (conditions.filter fun condition => !condition.2.isSilent) = shown
  rcases shown with _ | ⟨first, _ | ⟨second, rest⟩⟩
  · exact piecewise.empty
  · rfl
  · have wrapped : ∀ condition : Conjunction × Draft,
        change (if condition.1 = .and then condition.2 else condition.2.parenthesized) =
          if condition.1 = .and then change condition.2
          else (change condition.2).parenthesized := by
      intro condition
      split
      · rfl
      · exact piecewise.parenthesized condition.2
    simp only [piecewise.join, List.map_cons, List.map_map, Function.comp_def, wrapped]

/-- A column is nameless after the change only if it was before. -/
theorem IsPiecewise.columnList {columns : List Draft}
    (unnamed : change { pieces := [.unnamedColumn] } = { pieces := [.unnamedColumn] })
    (nameless : ∀ column ∈ columns,
      change column = { pieces := [.name ""] } ↔ column = { pieces := [.name ""] })
    (silent : (change (Draft.join ", " columns)).isSilent = (Draft.join ", " columns).isSilent) :
    change (columnList columns) = Draft.columnList (columns.map change) := by
  by_cases single : columns = [{ pieces := [.name ""] }]
  · subst single
    rw [List.map_singleton, (nameless _ (by simp)).mpr rfl]
    exact unnamed
  · have others : columns.map change ≠ [{ pieces := [.name ""] }] := by
      intro others
      obtain ⟨column, rfl, same⟩ := List.map_eq_singleton_iff.mp others
      exact single (by rw [(nameless column (by simp)).mp same])
    rw [columnList_of_ne single, columnList_of_ne others, piecewise.ledBy " " silent,
      piecewise.join]

end

end Draft

/-- The columns of all layers, if each is changed. -/
theorem Layer.mapM_columns_map {change : Draft → Draft} {alter : Layer → Layer}
    (own : ∀ layer, (alter layer).columns = layer.columns.map (List.map change))
    (layers : List Layer) :
    (layers.map alter).mapM columns =
      (layers.mapM columns).map (List.map (List.map change)) := by
  induction layers with
  | nil => rfl
  | cons layer rest ih =>
    rw [List.map_cons, List.mapM_cons, List.mapM_cons, ih, own]
    cases layer.columns with
    | none => rfl
    | some own => cases rest.mapM columns <;> rfl

/-- The columns of all layers are the columns of some layer. -/
theorem Layer.exists_of_mapM_columns {layers : List Layer} {lists : List (List Draft)}
    (enumerated : layers.mapM columns = some lists) :
    ∀ list ∈ lists, ∃ layer ∈ layers, list ∈ layer.columns := by
  induction layers generalizing lists with
  | nil => simp_all
  | cons layer rest ih =>
    simp only [List.mapM_cons, Option.bind_eq_bind, Option.pure_def, Option.bind_eq_some_iff,
      Option.some.injEq] at enumerated
    obtain ⟨own, found, others, listed, rfl⟩ := enumerated
    intro list member
    obtain rfl | member := List.mem_cons.mp member
    · exact ⟨layer, by simp, found⟩
    · obtain ⟨source, among, own⟩ := ih listed list member
      exact ⟨source, by simp [among], own⟩

end BoundSql
