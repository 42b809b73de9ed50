import BoundSql.Dialect
import BoundSql.Error
import BoundSql.Parameters
/-!
# Drafts

A draft is the text of a statement before identifiers are quoted and placeholders
numbered: a list of pieces in the order of the text.  What can go wrong is
something that the statement lacks.  The draft then ends there, with the pieces
before the failure, whose values have been bound by then.

Quoting and numbering are done by `Draft.render`, one piece after the other.
-/

namespace BoundSql

inductive Piece where
  | text (content : String)
  /-- An identifier, written as the dialect quotes it. -/
  | name (identifier : String)
  /-- All that a SELECT returns where this is one column without a table or name:
  nothing, unless the dialect puts quotes around the empty name. -/
  | unnamedColumn
  | value (bound : Value)
  | remark (comment : String)

namespace Piece

def values : Piece → List Value
  | .value bound => [bound]
  | .text _ | .name _ | .unnamedColumn | .remark _ => []

/-- The text of a piece, where `number` is that of the next placeholder. -/
def render (dialect : Dialect) (number : Nat) : Piece → String
  | .text content => content
  | .name identifier => dialect.quoteIdentifier identifier
  | .unnamedColumn =>
    match dialect.quote with
    | none => ""
    | some _ => " " ++ dialect.quoteIdentifier ""
  | .value _ => token number
  | .remark comment => "-- " ++ comment ++ "\n"

@[simp] theorem values_text (content : String) : (text content).values = [] := rfl

@[simp] theorem render_text (dialect : Dialect) (number : Nat) (content : String) :
    (text content).render dialect number = content := rfl

def isSilent : Piece → Bool
  | .text content => content.isEmpty
  | .name _ | .unnamedColumn | .value _ | .remark _ => false

end Piece

/-- The pieces of a statement, and what it lacks if it could not be finished. -/
structure Draft where
  pieces : List Piece := []
  failure : Option Lack := none

namespace Draft

instance : Inhabited Draft := ⟨{}⟩

def ofText (content : String) : Draft := { pieces := [.text content] }

def ofValue (value : Value) : Draft := { pieces := [.value value] }

def fail (lack : Lack) : Draft := { failure := some lack }

/-- One draft after another.  Nothing comes after a failure. -/
def append (first second : Draft) : Draft :=
  match first.failure with
  | some _ => first
  | none => { pieces := first.pieces ++ second.pieces, failure := second.failure }

instance : Append Draft := ⟨append⟩

def join (separator : String) : List Draft → Draft
  | [] => {}
  | [draft] => draft
  | draft :: rest => draft ++ ofText separator ++ join separator rest

def sequence (drafts : List Draft) : Draft :=
  drafts.foldr (fun draft rest => draft ++ rest) {}

/-- Whether a draft is finished and has no text. -/
def isSilent (draft : Draft) : Bool :=
  draft.failure.isNone && draft.pieces.all Piece.isSilent

/-- A draft after a text, or nothing if the draft has no text. -/
def ledBy (lead : String) (draft : Draft) : Draft :=
  if draft.isSilent then {} else ofText lead ++ draft

def parenthesized (draft : Draft) : Draft :=
  ofText "(" ++ draft ++ ofText ")"

def under (comment : Option String) (draft : Draft) : Draft :=
  match comment with
  | none => draft
  | some comment => { pieces := [.remark comment] } ++ draft

def values (draft : Draft) : List Value :=
  draft.pieces.flatMap Piece.values

/-- The text of pieces, where `number` is that of the first placeholder. -/
def render (dialect : Dialect) : (number : Nat) → List Piece → String
  | _, [] => ""
  | number, piece :: rest =>
    piece.render dialect number ++ render dialect (number + piece.values.length) rest

@[simp] theorem append_of_failure {first second : Draft} {lack : Lack}
    (failed : first.failure = some lack) : first ++ second = first := by
  change first.append second = first
  simp [append, failed]

@[simp] theorem empty_append (draft : Draft) : ({} : Draft) ++ draft = draft := rfl

@[simp] theorem append_empty (draft : Draft) : draft ++ ({} : Draft) = draft := by
  change draft.append {} = draft
  rcases draft with ⟨pieces, _ | lack⟩ <;> simp [append]

theorem append_assoc (first second third : Draft) :
    first ++ second ++ third = first ++ (second ++ third) := by
  change (first.append second).append third = first.append (second.append third)
  rcases first with ⟨pieces, _ | lack⟩ <;> rcases second with ⟨others, _ | lack'⟩ <;>
    simp [append]

theorem join_cons_cons (separator : String) (first second : Draft) (rest : List Draft) :
    join separator (first :: second :: rest) =
      first ++ ofText separator ++ join separator (second :: rest) := by
  rw [join]
  simp

theorem render_append (dialect : Dialect) (number : Nat) (first second : List Piece) :
    render dialect number (first ++ second) =
      render dialect number first ++
        render dialect (number + (first.flatMap Piece.values).length) second := by
  induction first generalizing number with
  | nil => simp [render]
  | cons piece rest ih => simp [render, ih, String.append_assoc, Nat.add_assoc]

end Draft

end BoundSql
