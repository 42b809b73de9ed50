import BoundSql.Proofs.Path.Basic
/-!
# The path of names and clauses

The drafts of names, and of the clauses that hold no statement of their own, are
level if the texts supplied for them are allowed.
-/

namespace BoundSql

variable {allowed : Piece → Prop}

/-! ### Supplied texts -/

namespace Supplied

@[simp] theorem within_nil : Within allowed [] := by simp [Within]

@[simp] theorem within_cons (given : Supplied) (rest : List Supplied) :
    Within allowed (given :: rest) ↔
      (∀ piece ∈ given.pieces, allowed piece) ∧ Within allowed rest := by
  simp [Within]

@[simp] theorem within_append (first second : List Supplied) :
    Within allowed (first ++ second) ↔ Within allowed first ∧ Within allowed second :=
  List.forall_mem_append

@[simp] theorem within_flatMap {Item : Type} (texts : Item → List Supplied) (items : List Item) :
    Within allowed (items.flatMap texts) ↔ ∀ item ∈ items, Within allowed (texts item) :=
  List.forall_mem_flatMap

@[simp] theorem within_map {Item : Type} (text : Item → Supplied) (items : List Item) :
    Within allowed (items.map text) ↔ ∀ item ∈ items, ∀ piece ∈ (text item).pieces, allowed piece :=
  List.forall_mem_map

end Supplied

/-! ### Names -/

namespace Piece

theorem path_ofParts {parts : List String}
    (isAllowed : ∀ part ∈ parts, allowed (ofIdentifier part)) (depth : Nat) :
    Path allowed ⟨depth, true⟩ (ofParts parts) ⟨depth, false⟩ := by
  induction parts with
  | nil => exact .loosen
  | cons part rest ih =>
    have first : allowed (ofIdentifier part) := isAllowed part (by simp)
    cases rest with
    | nil => exact .cons (.supplied first) .nil
    | cons next rest =>
      have others := ih fun part member => isAllowed part (by simp [member])
      exact .cons (.supplied first) (.cons (.firm (by decide) rfl) others)

theorem path_ofDotted {name : String}
    (isAllowed : ∀ piece ∈ (Supplied.dotted name).pieces, allowed piece) (depth : Nat) :
    Path allowed ⟨depth, true⟩ (ofDotted name) ⟨depth, false⟩ := by
  unfold ofDotted
  by_cases expression : isExpression name
  · have whole : allowed (.text name) := by simpa [Supplied.pieces, expression] using isAllowed
    simpa [expression] using Path.cons (.supplied whole) .nil
  · simp only [expression, Bool.false_eq_true, if_false]
    apply path_ofParts
    simpa [Supplied.pieces, expression] using isAllowed

theorem path_ofAlias {aliasName : Option String}
    (isAllowed : ∀ name ∈ aliasName, allowed (ofIdentifier name)) (depth : Nat) :
    Path allowed ⟨depth, false⟩ (ofAlias aliasName) ⟨depth, false⟩ := by
  cases aliasName with
  | none => exact .nil
  | some name =>
    exact .cons (.firm (by decide) rfl) (.cons (.supplied (isAllowed name rfl)) .nil)

end Piece

theorem Table.level_pieces {table : Table} (within : Supplied.Within allowed table.supplied) :
    Draft.Level allowed true { pieces := table.pieces } := by
  simp only [supplied, Supplied.within_cons, Supplied.within_map, Option.mem_toList] at within
  obtain ⟨name, _, aliasName⟩ := within
  intro depth _
  apply (Piece.path_ofDotted name depth).append
  exact Piece.path_ofAlias
    (fun text given => aliasName text given _ (by simp [Supplied.pieces])) depth

namespace Column

theorem level_reference {column : Column} (within : Supplied.Within allowed column.referred) :
    column.reference.Level allowed true := by
  obtain ⟨name, table, aliasName⟩ := column
  simp only [referred, Supplied.within_append, Supplied.within_map, Supplied.within_cons] at within
  obtain ⟨qualifier, identifier, _⟩ := within
  have named : allowed (Piece.ofIdentifier name) := identifier _ (by simp [Supplied.pieces])
  intro depth _
  cases table with
  | none => exact .cons (.supplied named) .nil
  | some table =>
    apply (Piece.path_ofDotted (qualifier table (by simp)) depth).append
    exact .cons (.firm (by decide) rfl) (.cons (.supplied named) .nil)

theorem level_selected {column : Column} (within : Supplied.Within allowed column.supplied) :
    column.selected.Level allowed true := by
  simp only [supplied, Supplied.within_append, Supplied.within_map, Option.mem_toList] at within
  obtain ⟨referred, aliasName⟩ := within
  intro depth _
  apply (level_reference referred depth rfl).append
  split
  · exact .nil
  · exact Piece.path_ofAlias (fun text given => aliasName text given _ (by simp [Supplied.pieces]))
      depth

/-- The column that stands for all columns of a table is written with the table's
name alone. -/
theorem level_selected_wildcard {table : Table} (within : Supplied.Within allowed table.supplied) :
    (selected { name := wildcard, table := some table }).Level allowed true := by
  simp only [Table.supplied, Supplied.within_cons] at within
  intro depth _
  have qualifier := Piece.path_ofDotted within.2.1 depth
  have star : Path allowed ⟨depth, false⟩ [.text ".", .text wildcard] ⟨depth, false⟩ :=
    .cons (.firm (by decide) rfl) (.cons (.firm (by decide) rfl) .loosen)
  simpa [selected, pieces, isWildcard, Piece.ofIdentifier] using qualifier.append star

end Column

theorem Draft.Level.aliased {aliasName : String} {draft : Draft}
    (isAllowed : ∀ piece ∈ (Supplied.identifier aliasName).pieces, allowed piece)
    (level : draft.Level allowed true) : (draft.aliased aliasName).Level allowed true := by
  apply level.append
  intro depth _
  refine Piece.path_ofAlias (fun text given => ?_) depth
  obtain rfl : aliasName = text := by
    unfold nonempty? at given
    split at given <;> simp_all
  exact isAllowed _ (by simp [Supplied.pieces])

/-! ### Clauses -/

namespace Draft

theorem level_references {columns : List Column}
    (within : Supplied.Within allowed (columns.flatMap Column.referred)) :
    (join ", " (columns.map Column.reference)).Level allowed true := by
  apply Level.join (by decide) (fun _ => rfl)
  simp only [List.forall_mem_map]
  exact fun column member => column.level_reference
    (fun given source => within given (List.mem_flatMap.mpr ⟨column, member, source⟩))

theorem level_values (values : List Value) :
    (join ", " (values.map ofValue)).Level allowed true := by
  apply Level.join (by decide) (fun _ => rfl)
  simp only [List.forall_mem_map]
  exact fun value _ => level_ofValue value

/-- A subject, an operator and a right side. -/
theorem Level.comparison {subject : Column} {operator : String} {target : Draft}
    (within : Supplied.Within allowed subject.referred) (isFirm : isFirm operator)
    (nests : ∀ depth, Text.nesting depth operator.toList = some depth)
    (level : target.Level allowed true) :
    (subject.reference ++ ofText operator ++ target).Level allowed true := by
  rw [append_assoc]
  exact (subject.level_reference within).append (level.led isFirm nests)

theorem Level.related {subject : Column} {target : Draft}
    (within : Supplied.Within allowed subject.referred) (level : target.Level allowed true)
    (relation : Relation) :
    (subject.reference ++ ofText (" " ++ relation.operator ++ " ") ++ target).Level
      allowed true := by
  apply Level.comparison within
  · cases relation <;> decide
  · cases relation <;> exact fun _ => rfl
  · exact level

theorem Level.exists {select : Draft} (level : select.Level allowed true) :
    select.exists.Level allowed true :=
  (level.parenthesized true).led (by decide) (fun _ => rfl) |>.ofFirm

theorem Level.negatedIf {draft : Draft} (level : draft.Level allowed true) (negated : Bool) :
    (draft.negatedIf negated).Level allowed true := by
  unfold Draft.negatedIf
  split
  · exact (level.led (by decide) fun _ => rfl).ofFirm
  · exact level

end Draft

theorem SearchClause.level_body {clause : SearchClause}
    (within : Supplied.Within allowed clause.supplied) : clause.body.Level allowed true := by
  intro depth
  have opening : (Draft.ofText "MATCH(").Leads allowed ⟨depth, true⟩ ⟨depth + 1, true⟩ :=
    Draft.leads_ofText (by decide) rfl
  have between : (Draft.ofText ") AGAINST(").Leads allowed ⟨depth + 1, false⟩ ⟨depth + 1, true⟩ :=
    Draft.leads_ofText (by decide) rfl
  have closing : (Draft.ofText (clause.mode.modifier ++ ")")).Leads allowed
      ⟨depth + 1, false⟩ ⟨depth, true⟩ := by
    cases clause.mode <;> exact Draft.leads_ofText (by decide) rfl
  exact ((((opening.append (Draft.level_references within (depth + 1))).append between).append
    (Draft.level_ofValue _ (depth + 1))).append closing).loosen

theorem SearchClause.level_draft {clause : SearchClause}
    (within : Supplied.Within allowed clause.supplied) : clause.draft.Level allowed true :=
  (level_body within).parenthesized true

theorem MembershipClause.level_body {clause : MembershipClause}
    (within : Supplied.Within allowed clause.subject.referred) :
    clause.body.Level allowed true := by
  intro depth
  have opening : (Draft.ofText (" " ++ notIf clause.negated ++ "IN (")).Leads allowed
      ⟨depth, false⟩ ⟨depth + 1, true⟩ := by
    cases clause.negated <;> exact Draft.leads_ofText (by decide) rfl
  have closing : (Draft.ofText ")").Leads allowed ⟨depth + 1, false⟩ ⟨depth, true⟩ :=
    Draft.leads_ofText (by decide) rfl
  exact ((((clause.subject.level_reference within depth).append opening).append
    (Draft.level_values _ (depth + 1))).append closing).loosen

theorem MembershipClause.level_draft {clause : MembershipClause}
    (within : Supplied.Within allowed clause.subject.referred) :
    clause.draft.Level allowed true := by
  unfold draft
  split
  · split
    · exact Draft.level_empty true
    · exact fun depth => (Draft.leads_ofText (by decide) rfl).loosen
  · exact (level_body within).parenthesized true

theorem RangeClause.level_body {clause : RangeClause}
    (within : Supplied.Within allowed clause.subject.referred) :
    clause.body.Level allowed true := by
  have low : (clause.subject.reference ++ .ofText (" " ++ notIf clause.negated ++ "BETWEEN ") ++
      .ofValue clause.low).Level allowed true :=
    Draft.Level.comparison within (by cases clause.negated <;> decide)
      (by cases clause.negated <;> exact fun _ => rfl) (Draft.level_ofValue clause.low)
  unfold body
  rw [Draft.append_assoc _ (.ofText " AND ")]
  exact low.append ((Draft.level_ofValue clause.high).led (by decide) fun _ => rfl)

theorem RangeClause.level_draft {clause : RangeClause}
    (within : Supplied.Within allowed clause.subject.referred) : clause.draft.Level allowed true :=
  (level_body within).parenthesized true

theorem NullClause.level_body {clause : NullClause}
    (within : Supplied.Within allowed clause.subject.referred) :
    clause.body.Level allowed true := by
  apply (clause.subject.level_reference within).append
  intro depth
  cases clause.negated <;> exact (Draft.leads_ofText (by decide) rfl).loosen

theorem NullClause.level_draft {clause : NullClause}
    (within : Supplied.Within allowed clause.subject.referred) : clause.draft.Level allowed true :=
  (level_body within).parenthesized true

theorem BitClause.level_body {clause : BitClause}
    (within : Supplied.Within allowed clause.subject.referred) :
    clause.body.Level allowed true := by
  intro depth
  have opening : (Draft.ofText "ISNULL(").Leads allowed ⟨depth, true⟩ ⟨depth + 1, true⟩ :=
    Draft.leads_ofText (by decide) rfl
  have between : (Draft.ofText ", 0) = ").Leads allowed ⟨depth + 1, false⟩ ⟨depth, true⟩ :=
    Draft.leads_ofText (by decide) rfl
  exact ((opening.append (clause.subject.level_reference within (depth + 1))).append
    between).append (Draft.level_ofValue _ depth)

theorem BitClause.level_draft {clause : BitClause}
    (within : Supplied.Within allowed clause.subject.referred) : clause.draft.Level allowed true :=
  (level_body within).parenthesized true

theorem ValueColumn.level_draft {column : ValueColumn}
    (within : ∀ piece ∈ (Supplied.identifier column.aliasName).pieces, allowed piece) :
    column.draft.Level allowed true :=
  (Draft.level_ofValue column.value).aliased within

theorem FunctionColumn.level_draft {column : FunctionColumn}
    (within : Supplied.Within allowed column.supplied) : column.draft.Level allowed true := by
  simp only [supplied, List.cons_append, Supplied.within_cons, Supplied.within_append,
    Supplied.within_map, Supplied.within_nil, and_true] at within
  obtain ⟨function, arguments, aliasName⟩ := within
  have name : (Draft.ofText column.function).Level allowed true :=
    Draft.level_piece (function _ (by simp [Supplied.pieces]))
  have list : (Draft.join ", " (column.arguments.map Draft.ofText)).Level allowed true := by
    apply Draft.Level.join (by decide) (fun _ => rfl)
    simp only [List.forall_mem_map]
    exact fun argument member =>
      Draft.level_piece (arguments argument member _ (by simp [Supplied.pieces]))
  apply Draft.Level.aliased aliasName
  split
  · exact name
  · exact name.append (list.parenthesized false)

theorem Count.level_draft {count : Count} (within : Supplied.Within allowed count.supplied) :
    (Draft.ofText " " ++ count.draft).Level allowed true := by
  simp only [supplied, Supplied.within_append, Supplied.within_flatMap, Supplied.within_map,
    Option.mem_toList] at within
  obtain ⟨counted, aliasName⟩ := within
  intro depth
  have blank : (Draft.ofText " ").Leads allowed ⟨depth, true⟩ ⟨depth, true⟩ :=
    Draft.leads_ofText (by decide) rfl
  have opening : (Draft.ofText "COUNT(").Leads allowed ⟨depth, true⟩ ⟨depth + 1, true⟩ :=
    Draft.leads_ofText (by decide) rfl
  have closing : (Draft.ofText ")").Leads allowed ⟨depth + 1, false⟩ ⟨depth, true⟩ :=
    Draft.leads_ofText (by decide) rfl
  have named : Draft.Leads allowed ⟨depth, false⟩
      { pieces := Piece.ofAlias (count.aliasName.bind nonempty?) } ⟨depth, false⟩ := by
    intro _
    refine Piece.path_ofAlias (fun text given => ?_) depth
    obtain ⟨source, found, same⟩ := Option.bind_eq_some_iff.mp given
    obtain rfl : source = text := by
      unfold nonempty? at same
      split at same <;> simp_all
    exact aliasName source found _ (by simp [Supplied.pieces])
  unfold draft
  refine blank.append (((opening.append ?_).append closing).loosen.append named)
  cases column : count.column with
  | none => exact (Draft.leads_ofText (by decide) rfl).loosen
  | some subject => exact subject.level_reference (counted subject column) (depth + 1)

theorem OrderBy.level_draft {entry : OrderBy}
    (within : Supplied.Within allowed entry.column.referred) : entry.draft.Level allowed true := by
  apply (entry.column.level_reference within).append
  intro depth
  cases entry.direction <;> exact (Draft.leads_ofText (by decide) rfl).loosen

theorem Window.level_draft (window : Window) : window.draft.Level allowed false := by
  unfold draft
  split
  · rw [Draft.append_assoc _ (.ofText ", ")]
    apply Draft.Level.append
    · exact (Draft.level_ofValue _).led (by decide) fun _ => rfl
    · exact (Draft.level_ofValue _).led (by decide) fun _ => rfl
  · exact Draft.level_empty false

theorem Draft.level_limit (limit : Option Nat) : (Draft.limit limit).Level allowed false := by
  cases limit with
  | none => exact level_empty false
  | some rows => exact (level_ofValue _).led (by decide) fun _ => rfl

theorem Assignment.level_draft {assignment : Assignment}
    (within : Supplied.Within allowed assignment.column.referred) :
    assignment.draft.Level allowed true :=
  Draft.Level.comparison within (by decide) (fun _ => rfl) (Draft.level_ofValue assignment.value)

end BoundSql
