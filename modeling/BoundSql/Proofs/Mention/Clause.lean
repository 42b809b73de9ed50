import BoundSql.Proofs.Mention.Basic
/-!
# The mentions of names and clauses

The drafts of names, and of the clauses that hold no statement of their own, show what
is mentioned there.
-/

namespace BoundSql

/-! ### Names -/

namespace Piece

@[simp] theorem segments_ofIdentifier (identifier : String) :
    (ofIdentifier identifier).segments = Mention.identifier identifier := by
  unfold ofIdentifier Mention.identifier
  split <;> rfl

@[simp] theorem segments_ofParts (parts : List String) :
    (ofParts parts).flatMap segments = parts.flatMap Mention.identifier := by
  induction parts with
  | nil => rfl
  | cons part rest ih =>
    cases rest with
    | nil => simp [ofParts]
    | cons next rest =>
      simp only [ofParts, List.flatMap_cons, segments_ofIdentifier, segments_text,
        List.nil_append]
      rw [ih, List.flatMap_cons]

@[simp] theorem segments_ofDotted (name : String) :
    (ofDotted name).flatMap segments = Mention.dotted name := by
  unfold ofDotted Mention.dotted
  split
  · rfl
  · simp [List.flatMap_map]

@[simp] theorem segments_ofAlias (aliasName : Option String) :
    (ofAlias aliasName).flatMap segments = aliasName.toList.flatMap Mention.identifier := by
  cases aliasName with
  | none => rfl
  | some aliasName => simp [ofAlias]

variable {mention : Mention}

theorem origin_ofIdentifier {identifier : String}
    (exposed : isExpression identifier → identifier ∈ mention.exposed)
    (quoted : ∀ segment ∈ Mention.identifier identifier, segment ∈ mention.segments) :
    (ofIdentifier identifier).IsSign ∨ mention.Writes (ofIdentifier identifier) := by
  by_cases wild : identifier = wildcard
  · have star : ofIdentifier identifier = .text "*" := by simp [ofIdentifier, wild, wildcard]
    exact .inl (star ▸ isSign_text (by decide))
  · by_cases expression : isExpression identifier
    · simp only [ofIdentifier, expression, or_true, if_true]
      exact .inr (.exposed (exposed expression))
    · have plain : ¬ (identifier = wildcard ∨ isExpression identifier) := by
        simp [wild, expression]
      simp only [ofIdentifier, plain, if_false]
      exact .inr (.segment (quoted identifier (by simp [Mention.identifier, plain])))

theorem origin_ofParts {parts : List String}
    (origin : ∀ part ∈ parts, (ofIdentifier part).IsSign ∨ mention.Writes (ofIdentifier part)) :
    ∀ piece ∈ ofParts parts, piece.IsSign ∨ mention.Writes piece := by
  induction parts with
  | nil => simp [ofParts]
  | cons part rest ih =>
    have first := origin part (by simp)
    cases rest with
    | nil => simpa [ofParts] using first
    | cons next rest =>
      have point : (text ".").IsSign := isSign_text (by decide)
      have others := ih fun part member => origin part (by simp [member])
      simp only [ofParts, List.forall_mem_cons]
      exact ⟨first, .inl point, others⟩

theorem origin_ofDotted {name : String} (exposed : isExpression name → name ∈ mention.exposed)
    (quoted : ∀ segment ∈ Mention.dotted name, segment ∈ mention.segments) :
    ∀ piece ∈ ofDotted name, piece.IsSign ∨ mention.Writes piece := by
  by_cases expression : isExpression name
  · simp only [ofDotted, expression, if_true, List.mem_singleton, forall_eq]
    exact .inr (.exposed (exposed expression))
  · simp only [Mention.dotted, expression, Bool.false_eq_true, if_false,
      List.forall_mem_flatMap] at quoted
    simp only [ofDotted, expression, Bool.false_eq_true, if_false]
    apply origin_ofParts
    simp only [List.forall_mem_map]
    intro part among
    -- A part of a name that is no expression is none either.
    have plain : ¬ isExpression (String.ofList part) := by
      simp only [isExpression, String.toList_ofList, decide_eq_true_eq] at expression ⊢
      exact fun inside => expression (Text.mem_of_mem_split among inside)
    exact origin_ofIdentifier (fun is => absurd is plain) (quoted part among)

theorem origin_ofAlias {aliasName : Option String}
    (exposed : ∀ name ∈ aliasName, isExpression name → name ∈ mention.exposed)
    (quoted : ∀ name ∈ aliasName, ∀ segment ∈ Mention.identifier name, segment ∈ mention.segments) :
    ∀ piece ∈ ofAlias aliasName, piece.IsSign ∨ mention.Writes piece := by
  cases aliasName with
  | none => simp [ofAlias]
  | some name =>
    have lead : (text " AS ").IsSign := isSign_text (by decide)
    simp only [ofAlias, List.forall_mem_cons, List.not_mem_nil, false_implies, implies_true,
      and_true]
    exact ⟨.inl lead, origin_ofIdentifier (exposed name rfl) (quoted name rfl)⟩

end Piece

namespace Draft

/-- Pieces show a mention if they quote its identifiers and have nothing else in them
but what it writes. -/
theorem shows_pieces {pieces : List Piece} {mention : Mention}
    (segments : pieces.flatMap Piece.segments = mention.segments)
    (origin : ∀ piece ∈ pieces, piece.IsSign ∨ mention.Writes piece) :
    Shows { pieces } [mention] :=
  ⟨fun _ => by simpa using segments, fun piece member =>
    (origin piece member).imp_right fun writes => ⟨mention, by simp, writes⟩⟩

theorem shows_table (table : Table) : Shows { pieces := table.pieces } [.table table] := by
  apply shows_pieces
  · simp [Table.pieces, Mention.segments]
  · simp only [Table.pieces, List.forall_mem_append]
    constructor
    · apply Piece.origin_ofDotted
      · intro expression
        simp [Mention.exposed, expression]
      · intro segment among
        simp [Mention.segments, among]
    · apply Piece.origin_ofAlias
      · intro name given expression
        simp_all [Mention.exposed]
      · intro name given segment among
        simp_all [Mention.segments]

theorem shows_alias (aliasName : Option String) :
    Shows { pieces := Piece.ofAlias aliasName } (aliasName.toList.map .aliasName) := by
  cases aliasName with
  | none => exact shows_empty
  | some name =>
    apply shows_pieces
    · simp [Mention.segments]
    · apply Piece.origin_ofAlias <;> simp [Mention.exposed, Mention.segments]

theorem Shows.aliased {draft : Draft} {mentions : List Mention} (shows : draft.Shows mentions)
    (aliasName : String) :
    (draft.aliased aliasName).Shows
      (mentions ++ (nonempty? aliasName).toList.map .aliasName) :=
  shows.append (shows_alias _)

end Draft

namespace Column

theorem shows_reference (column : Column) : column.reference.Shows [.column column] := by
  obtain ⟨name, table, aliasName⟩ := column
  apply Draft.shows_pieces
  · cases table <;> simp [pieces, Mention.segments]
  · have own : (Piece.ofIdentifier name).IsSign ∨
        (Mention.column { name, table, aliasName }).Writes (Piece.ofIdentifier name) := by
      apply Piece.origin_ofIdentifier
      · intro expression
        simp [Mention.exposed, expression]
      · intro segment among
        simp [Mention.segments, among]
    cases table with
    | none => simpa [pieces] using own
    | some table =>
      have point : (Piece.text ".").IsSign := Piece.isSign_text (by decide)
      simp only [pieces, List.forall_mem_append, List.forall_mem_cons, List.not_mem_nil,
        false_implies, implies_true, and_true]
      refine ⟨?_, .inl point, own⟩
      apply Piece.origin_ofDotted
      · intro expression
        simp [Mention.exposed, expression]
      · intro segment among
        simp [Mention.segments, among]

theorem shows_selected (column : Column) : column.selected.Shows column.mentions := by
  have split : column.selected = column.reference ++
      { pieces := if column.isWildcard then [] else Piece.ofAlias column.aliasName } := rfl
  have aliased : Draft.Shows
      { pieces := if column.isWildcard then [] else Piece.ofAlias column.aliasName }
      (if column.isWildcard then [] else column.aliasName.toList.map .aliasName) := by
    by_cases wild : column.isWildcard
    · simpa [wild] using Draft.shows_empty
    · simpa [wild] using Draft.shows_alias column.aliasName
  rw [split]
  exact (shows_reference column).append aliased

/-- All that there is of a column that is written as one piece with an empty name is
that name. -/
theorem name_of_selected {column : Column}
    (blank : column.selected = { pieces := [.name ""] }) : column.name = "" := by
  obtain ⟨name, table, aliasName⟩ := column
  simp only [selected, pieces, Draft.mk.injEq, and_true] at blank
  cases table with
  | some table =>
    have point : Piece.text "." ∈ [Piece.name ""] := by
      rw [← blank]
      simp
    simp at point
  | none =>
    have first : Piece.ofIdentifier name = .name "" := (List.cons.inj blank).1
    unfold Piece.ofIdentifier at first
    split at first
    · cases first
    · exact Piece.name.inj first

end Column

/-! ### Clauses -/

namespace Draft

theorem shows_references (columns : List Column) :
    (join ", " (columns.map Column.reference)).Shows (columns.map .column) :=
  (ShowEach.mapOne fun column _ => column.shows_reference).join (by decide)

theorem shows_values (values : List Value) : (join ", " (values.map ofValue)).Shows [] := by
  have none : values.flatMap (fun _ => ([] : List Mention)) = [] :=
    List.flatMap_eq_nil_iff.mpr (by simp)
  rw [← none]
  exact (ShowEach.map fun value _ => shows_ofValue value).join (by decide)

/-- A value after a draft adds nothing to what the draft shows. -/
theorem Shows.valued {draft : Draft} {mentions : List Mention} (shows : draft.Shows mentions)
    (value : Value) : (draft ++ ofValue value).Shows mentions := by
  simpa using shows.append (shows_ofValue value)

/-- A subject, an operator and a right side. -/
theorem Shows.comparison {operator : String} (firm : isFirm operator) {target : Draft}
    {mentions : List Mention} (shows : target.Shows mentions) (subject : Column) :
    (subject.reference ++ ofText operator ++ target).Shows (.column subject :: mentions) :=
  (subject.shows_reference.closed firm).append shows

theorem Shows.related {target : Draft} {mentions : List Mention} (shows : target.Shows mentions)
    (subject : Column) (relation : Relation) :
    (Draft.comparison subject relation target).Shows (.column subject :: mentions) := by
  apply Shows.parenthesized
  apply shows.comparison
  cases relation <;> decide

theorem Shows.exists {select : Draft} {mentions : List Mention} (shows : select.Shows mentions) :
    select.exists.Shows mentions :=
  shows.parenthesized.led (by decide)

theorem Shows.negatedIf {draft : Draft} {mentions : List Mention} (shows : draft.Shows mentions)
    (negated : Bool) : (draft.negatedIf negated).Shows mentions := by
  unfold Draft.negatedIf
  split
  · exact shows.led (by decide)
  · exact shows

end Draft

theorem SearchClause.shows_draft (clause : SearchClause) : clause.draft.Shows clause.mentions := by
  have opened : (Draft.ofText "MATCH(" ++ .join ", " (clause.columns.map Column.reference) ++
      .ofText ") AGAINST(" ++ .ofValue clause.subject).Shows clause.mentions :=
    (((Draft.shows_references clause.columns).led (by decide)).closed (by decide)).valued _
  apply Draft.Shows.parenthesized
  apply opened.closed
  cases clause.mode <;> decide

theorem MembershipClause.shows_draft (clause : MembershipClause) :
    clause.draft.Shows clause.mentions := by
  have firm : isFirm (" " ++ notIf clause.negated ++ "IN (") := by
    cases clause.negated <;> decide
  unfold draft mentions
  split
  · split
    · exact Draft.shows_empty
    · exact Draft.shows_ofText (by decide)
  · have listed := (Draft.shows_values clause.values).comparison firm clause.subject
    exact (listed.closed (by decide)).parenthesized

theorem MembershipClause.showEach_drafts (clauses : List MembershipClause) :
    Draft.ShowEach (drafts clauses) (clauses.flatMap mentions) := by
  unfold drafts
  induction clauses with
  | nil => exact .nil
  | cons clause rest ih =>
    by_cases void : clause.isVoid
    · have none : clause.mentions.flatMap Mention.segments = [] := by
        simp only [isVoid, Bool.and_eq_true] at void
        simp [mentions, void.1]
      simpa [void] using ih.leftOut none
    · simpa [void] using Draft.ShowEach.cons clause.shows_draft ih

theorem RangeClause.shows_draft (clause : RangeClause) :
    clause.draft.Shows [.column clause.subject] := by
  have firm : isFirm (" " ++ notIf clause.negated ++ "BETWEEN ") := by
    cases clause.negated <;> decide
  have low := (Draft.shows_ofValue clause.low).comparison firm clause.subject
  exact ((low.closed (by decide)).valued clause.high).parenthesized

theorem NullClause.shows_draft (clause : NullClause) :
    clause.draft.Shows [.column clause.subject] := by
  apply Draft.Shows.parenthesized
  apply clause.subject.shows_reference.closed
  cases clause.negated <;> decide

theorem BitClause.shows_draft (clause : BitClause) :
    clause.draft.Shows [.column clause.subject] :=
  (((clause.subject.shows_reference.led (by decide)).closed (by decide)).valued _).parenthesized

theorem ValueColumn.shows_draft (column : ValueColumn) : column.draft.Shows column.mentions :=
  (Draft.shows_ofValue column.value).aliased column.aliasName

theorem FunctionColumn.shows_draft (column : FunctionColumn) :
    column.draft.Shows column.mentions := by
  have name := Draft.shows_verbatim column.function
  have list : Draft.Shows (.join ", " (column.arguments.map .ofText))
      (column.arguments.map .verbatim) :=
    (Draft.ShowEach.mapOne fun text _ => Draft.shows_verbatim text).join (by decide)
  unfold draft mentions
  apply Draft.Shows.aliased
  split
  · rename_i empty
    simpa [List.isEmpty_iff.mp empty] using name
  · exact name.append list.parenthesized

theorem Count.shows_draft (count : Count) : count.draft.Shows count.mentions := by
  have counting : ∀ {counted : Draft} {mentions : List Mention}, counted.Shows mentions →
      (Draft.ofText "COUNT(" ++ counted ++ .ofText ")" ++
        { pieces := Piece.ofAlias (count.aliasName.bind nonempty?) }).Shows
          (mentions ++ (count.aliasName.bind nonempty?).toList.map .aliasName) :=
    fun shows => ((shows.led (by decide)).closed (by decide)).append (Draft.shows_alias _)
  unfold draft mentions
  cases count.column with
  | none => exact counting (Draft.shows_ofText (by decide))
  | some column => exact counting column.shows_reference

theorem OrderBy.shows_draft (entry : OrderBy) : entry.draft.Shows [.column entry.column] := by
  apply entry.column.shows_reference.closed
  cases entry.direction <;> decide

theorem Window.shows_draft (window : Window) : window.draft.Shows [] := by
  unfold draft
  split
  · have start := (Draft.shows_ofText (by decide : isFirm " LIMIT ")).valued
      (.integer (window.start.getD 0))
    exact (start.closed (by decide)).valued _
  · exact Draft.shows_empty

theorem Draft.shows_limit (limit : Option Nat) : (Draft.limit limit).Shows [] := by
  cases limit with
  | none => exact shows_empty
  | some rows => exact (shows_ofText (by decide : isFirm " LIMIT ")).valued (.integer rows)

theorem Assignment.shows_draft (assignment : Assignment) :
    assignment.draft.Shows [.column assignment.column] :=
  (Draft.shows_ofValue assignment.value).comparison (by decide) assignment.column

end BoundSql
