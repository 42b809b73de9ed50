import BoundSql.Log
import BoundSql.Statement
/-!
# Replies

What edits reply, and what becomes of the edits after one that fails.
-/

namespace BoundSql

inductive Reply where
  | done
  /-- The edit failed. -/
  | failed (error : Error)
  /-- The edit led to a part, whose edits replied this. -/
  | within (replies : List Reply)
  | condition (seen : Condition)
  | statement (seen : Statement)
  | table (seen : Option Table)
  | filter (seen : Option Condition)
  | columns (seen : List Column)
  | copied (replies : List Reply) (kept edited : Statement)

/-- A part of a statement, if its kind has that part. -/
def Statement.answer (statement : Statement) : Part → Except Error Reply
  | .table => statement.table?.map .table
  | .filter => statement.filter?.map .filter

/-- What becomes of the edits after one that fails. -/
inductive OnFailure where
  /-- They go on from the state that it left. -/
  | proceed
  /-- They are given up, with the same error. -/
  | abort
deriving DecidableEq

namespace OnFailure

variable {Edit State : Type}

/-- An operation of which a failure counts as a reply if the edits after it go on. -/
def settle (policy : OnFailure) (editing : Editing State Reply) : Editing State Reply :=
  fun state =>
    match policy, editing state with
    | .proceed, { state, events, result := .error error } =>
      { state, events, result := .ok (.failed error) }
    | _, edited => edited

/-- Runs edits one after the other. -/
def runEach (policy : OnFailure) (run : Edit → Editing State Reply) :
    List Edit → Editing State (List Reply)
  | [] => return []
  | edit :: rest => do
    let reply ← policy.settle (run edit)
    let replies ← policy.runEach run rest
    return reply :: replies

end OnFailure

/-- Changes the state, with nothing more to reply. -/
def Editing.done {State : Type} (edit : State → State) : Editing State Reply := do
  .change edit
  return .done

end BoundSql
