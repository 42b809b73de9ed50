import BoundSql.Draft.Select
import BoundSql.Statement.Supplied
import BoundSql.Text.Parentheses
/-!
# The path of a draft

The pieces of a draft are read from left to right.  A place on the way is how many
parentheses are open there, and whether the text before it is firm: keywords and
signs of SQL, or a comment.  What is not firm, such as a name or a placeholder,
comes only after what is, and so does a comment.  So two such pieces never touch,
and none is touched by the digits of another or by the mark of a comment.

The pieces that come from supplied texts are the only ones of which the path does
not say what is in them.  They are `allowed` pieces, for a predicate which is chosen
where something is to be shown of all texts.
-/

namespace BoundSql

/-- The characters of keywords and signs. -/
def isSign (char : Char) : Bool :=
  char.isUpper || char ∈ [' ', '\n', '(', ')', ',', '.', '=', '<', '>', '*', '0', '1']

/-- Whether a text is firm: it consists of keywords and signs, and begins with no
digit. -/
def isFirm (content : String) : Bool :=
  !content.isEmpty && content.toList.all isSign && !content.toList.head?.any Char.isDigit

/-- The pieces in which a supplied text is written. -/
def Supplied.pieces : Supplied → List Piece
  | .identifier text => [.ofIdentifier text]
  | .dotted text =>
    if isExpression text then [.text text]
    else (Text.split (· == '.') text.toList).map fun part => .ofIdentifier (String.ofList part)
  | .verbatim text => [.text text]
  | .comment text => [.remark text]

/-- Whether all pieces of supplied texts are allowed. -/
def Supplied.Within (allowed : Piece → Prop) (supplied : List Supplied) : Prop :=
  ∀ given ∈ supplied, ∀ piece ∈ given.pieces, allowed piece

/-- A place in the text of a draft. -/
structure Place where
  depth : Nat
  firm : Bool

/-- A piece leads from one place to another. -/
inductive Piece.Leads (allowed : Piece → Prop) : Place → Piece → Place → Prop
  | firm {depth after : Nat} {firm : Bool} {content : String} (isFirm : isFirm content)
      (nests : Text.nesting depth content.toList = some after) :
      Leads allowed ⟨depth, firm⟩ (.text content) ⟨after, true⟩
  | remark {depth : Nat} {comment : String} (isAllowed : allowed (.remark comment)) :
      Leads allowed ⟨depth, true⟩ (.remark comment) ⟨depth, true⟩
  | supplied {depth : Nat} {piece : Piece} (isAllowed : allowed piece) :
      Leads allowed ⟨depth, true⟩ piece ⟨depth, false⟩
  | value {depth : Nat} {bound : Value} :
      Leads allowed ⟨depth, true⟩ (.value bound) ⟨depth, false⟩
  | unnamedColumn {depth : Nat} :
      Leads allowed ⟨depth, true⟩ .unnamedColumn ⟨depth, false⟩

/-- Pieces lead from one place to another.  That a place is firm can be
forgotten. -/
inductive Path (allowed : Piece → Prop) : Place → List Piece → Place → Prop
  | nil {place : Place} : Path allowed place [] place
  | loosen {depth : Nat} : Path allowed ⟨depth, true⟩ [] ⟨depth, false⟩
  | cons {start next stop : Place} {piece : Piece} {rest : List Piece}
      (step : piece.Leads allowed start next) (path : Path allowed next rest stop) :
      Path allowed start (piece :: rest) stop

variable {allowed : Piece → Prop}

namespace Path

/-- What can follow anything can follow what is firm. -/
theorem ofFirm {depth : Nat} {pieces : List Piece} {stop : Place}
    (path : Path allowed ⟨depth, false⟩ pieces stop) :
    Path allowed ⟨depth, true⟩ pieces stop := by
  cases path with
  | nil => exact .loosen
  | cons step path =>
    cases step with
    | firm isFirm nests => exact .cons (.firm isFirm nests) path

theorem append {start next stop : Place} {first second : List Piece}
    (path : Path allowed start first next) (further : Path allowed next second stop) :
    Path allowed start (first ++ second) stop := by
  induction path with
  | nil => exact further
  | loosen => exact further.ofFirm
  | cons step _ ih => exact .cons step (ih further)

/-- What comes after something that is not firm begins with a sign that is no digit. -/
theorem head_render {depth : Nat} {pieces : List Piece} {stop : Place}
    (path : Path allowed ⟨depth, false⟩ pieces stop) {dialect : Dialect} {number : Nat}
    {char : Char}
    (head : (Draft.render dialect number pieces).toList.head? = some char) :
    isSign char ∧ ¬ char.isDigit := by
  cases path with
  | nil => simp [Draft.render] at head
  | cons step path =>
    cases step with
    | @firm _ _ _ content firm nests =>
      simp only [isFirm, Bool.and_eq_true, Bool.not_eq_true', List.all_eq_true] at firm
      have nonempty : content.toList ≠ [] := by simpa using firm.1.1
      obtain ⟨first, rest, chars⟩ := List.exists_cons_of_ne_nil nonempty
      obtain rfl : first = char := by simpa [Draft.render, chars] using head
      exact ⟨firm.1.2 first (by simp [chars]), by simpa [chars] using firm.2⟩

end Path

/-! ### Drafts -/

namespace Draft

/-- A draft that is finished leads from one place to another. -/
def Leads (allowed : Piece → Prop) (start : Place) (draft : Draft) (stop : Place) : Prop :=
  draft.failure = none → Path allowed start draft.pieces stop

/-- A draft comes back to the depth from which it starts, wherever it stands if
that is after something firm, or anywhere at all. -/
def Level (allowed : Piece → Prop) (firm : Bool) (draft : Draft) : Prop :=
  ∀ depth, draft.Leads allowed ⟨depth, firm⟩ ⟨depth, false⟩

theorem Leads.append {start next stop : Place} {first second : Draft}
    (leads : first.Leads allowed start next) (further : second.Leads allowed next stop) :
    (first ++ second).Leads allowed start stop := by
  intro finished
  obtain ⟨pieces, _ | lack⟩ := first
  · exact (leads rfl).append (further finished)
  · exact absurd finished (by rw [append_of_failure rfl]; simp)

theorem Leads.loosen {start : Place} {draft : Draft} {depth : Nat}
    (leads : draft.Leads allowed start ⟨depth, true⟩) :
    draft.Leads allowed start ⟨depth, false⟩ := by
  intro finished
  simpa using (leads finished).append .loosen

theorem Level.ofFirm {firm : Bool} {draft : Draft} (level : draft.Level allowed false) :
    draft.Level allowed firm := by
  cases firm with
  | false => exact level
  | true => exact fun depth finished => (level depth finished).ofFirm

theorem leads_ofText {depth after : Nat} {firm : Bool} {content : String}
    (isFirm : isFirm content) (nests : Text.nesting depth content.toList = some after) :
    (ofText content).Leads allowed ⟨depth, firm⟩ ⟨after, true⟩ :=
  fun _ => .cons (.firm isFirm nests) .nil

theorem level_empty (firm : Bool) : Level allowed firm {} := by
  cases firm with
  | false => exact fun _ _ => .nil
  | true => exact fun _ _ => .loosen

theorem leads_fail (start stop : Place) (lack : Lack) :
    (Draft.fail lack).Leads allowed start stop :=
  fun finished => nomatch finished

theorem level_ofValue (value : Value) : (ofValue value).Level allowed true :=
  fun _ _ => .cons .value .nil

theorem level_piece {piece : Piece} (isAllowed : allowed piece) :
    Level allowed true { pieces := [piece] } :=
  fun _ _ => .cons (.supplied isAllowed) .nil

theorem Level.parenthesized {draft : Draft} (level : draft.Level allowed true) (firm : Bool) :
    draft.parenthesized.Level allowed firm := by
  intro depth
  have opening : (ofText "(").Leads allowed ⟨depth, firm⟩ ⟨depth + 1, true⟩ :=
    leads_ofText (by decide) rfl
  have closing : (ofText ")").Leads allowed ⟨depth + 1, false⟩ ⟨depth, true⟩ :=
    leads_ofText (by decide) rfl
  exact ((opening.append (level (depth + 1))).append closing).loosen

/-- A firm text keeps what is after it from what is before it. -/
theorem Level.led {lead : String} (isFirm : isFirm lead)
    (nests : ∀ depth, Text.nesting depth lead.toList = some depth) {draft : Draft}
    (level : draft.Level allowed true) : (ofText lead ++ draft).Level allowed false :=
  fun depth => (leads_ofText isFirm (nests depth)).append (level depth)

theorem Level.append {firm : Bool} {first second : Draft} (level : first.Level allowed firm)
    (further : second.Level allowed false) : (first ++ second).Level allowed firm :=
  fun depth => (level depth).append (further depth)

theorem Level.join {separator : String} (isFirm : isFirm separator)
    (nests : ∀ depth, Text.nesting depth separator.toList = some depth) {drafts : List Draft}
    (level : ∀ draft ∈ drafts, draft.Level allowed true) :
    (join separator drafts).Level allowed true := by
  induction drafts with
  | nil => exact level_empty true
  | cons draft rest ih =>
    have first := level draft (by simp)
    have others := ih fun draft member => level draft (by simp [member])
    cases rest with
    | nil => exact first
    | cons next rest =>
      rw [join_cons_cons, append_assoc]
      exact first.append (others.led isFirm nests)

theorem Level.sequence {drafts : List Draft}
    (level : ∀ draft ∈ drafts, draft.Level allowed false) :
    (sequence drafts).Level allowed false := by
  induction drafts with
  | nil => exact level_empty false
  | cons draft rest ih =>
    exact (level draft (by simp)).append (ih fun draft member => level draft (by simp [member]))

theorem Level.ledBy {lead : String} (isFirm : isFirm lead)
    (nests : ∀ depth, Text.nesting depth lead.toList = some depth) {draft : Draft}
    (level : draft.Level allowed true) : (draft.ledBy lead).Level allowed false := by
  unfold Draft.ledBy
  split
  · exact level_empty false
  · exact level.led isFirm nests

theorem Level.under {comment : Option String} {draft : Draft}
    (within : Supplied.Within allowed (comment.toList.map .comment))
    (level : draft.Level allowed true) : (draft.under comment).Level allowed true := by
  cases comment with
  | none => exact level
  | some comment =>
    have isAllowed : allowed (.remark comment) :=
      within (.comment comment) (by simp) (.remark comment) (by simp [Supplied.pieces])
    have remark : ∀ depth, Draft.Leads allowed ⟨depth, true⟩ { pieces := [.remark comment] }
        ⟨depth, true⟩ :=
      fun depth _ => .cons (.remark isAllowed) .nil
    exact fun depth => (remark depth).append (level depth)

theorem Level.allOf {conditions : List (Conjunction × Draft)}
    (level : ∀ condition ∈ conditions, condition.2.Level allowed true) :
    (allOf conditions).Level allowed true := by
  have shownLevel : ∀ condition ∈ conditions.filter fun condition => !condition.2.isSilent,
      condition.2.Level allowed true :=
    fun condition member => level condition (List.mem_filter.mp member).1
  simp only [Draft.allOf]
  generalize (conditions.filter fun condition => !condition.2.isSilent) = shown at shownLevel
  match shown with
  | [] => exact level_empty true
  | [condition] => exact shownLevel condition (by simp)
  | first :: second :: rest =>
    apply Level.join (by decide) (fun _ => rfl)
    simp only [List.forall_mem_map]
    intro condition member
    split
    · exact shownLevel condition member
    · exact (shownLevel condition member).parenthesized true

theorem Level.withTable {table : Table} {body : List Piece → Draft} {firm : Bool}
    (level : (body table.pieces).Level allowed firm) :
    (withTable table body).Level allowed firm := by
  unfold Draft.withTable
  split
  · exact fun _ => leads_fail _ _ _
  · exact level

end Draft

end BoundSql
