import BoundSql.Edit.Data
/-!
# Scripts

A script is a statement together with the edits that follow.  Running it gives a
reply and a state after each edit.
-/

namespace BoundSql

/-- A reply and the statement after the edit that gave it. -/
structure Step where
  reply : Reply
  after : Statement

inductive Script where
  | select (start : Select) (edits : List SelectEdit)
  | insert (start : Insert) (edits : List InsertEdit)
  | update (start : Update) (edits : List UpdateEdit)
  | delete (start : Delete) (edits : List DeleteEdit)
  | combination (start : Combination) (edits : List CombinationEdit)
  | difference (start : Difference) (edits : List DifferenceEdit)

/-- Runs edits one after the other and keeps the state after each. -/
def traceEdits {Edit State : Type} (policy : OnFailure)
    (run : Edit → Editing State Reply) (wrap : State → Statement) :
    List Edit → Editing State (List Step)
  | [] => return []
  | edit :: rest => do
    let reply ← policy.settle (run edit)
    let state ← .current
    let steps ← traceEdits policy run wrap rest
    return { reply, after := wrap state } :: steps

/-- Runs edits on a state, and gives the statement after all of them with the steps
to it. -/
def traceFrom {Edit State : Type} (policy : OnFailure)
    (run : Edit → Editing State Reply) (wrap : State → Statement) (start : State)
    (edits : List Edit) : Logged (Statement × List Step) := do
  let (final, steps) ← (traceEdits policy run wrap edits start).logged
  return (wrap final, steps)

/-- The statement after all edits of a script, and the steps to it. -/
def Script.run (policy : OnFailure) : Script → Logged (Statement × List Step)
  | .select start edits => traceFrom policy (SelectEdit.run policy) .select start edits
  | .insert start edits => traceFrom policy (InsertEdit.run policy) .insert start edits
  | .update start edits => traceFrom policy (UpdateEdit.run policy) .update start edits
  | .delete start edits => traceFrom policy (DeleteEdit.run policy) .delete start edits
  | .combination start edits =>
    traceFrom policy (CombinationEdit.run policy) .combination start edits
  | .difference start edits =>
    traceFrom policy (DifferenceEdit.run policy) .difference start edits

/-- A script whose SELECTs are still to be built. -/
inductive ScriptArgument where
  | select (table : Option Table) (edits : List SelectEdit)
  | insert (table : Table) (edits : List InsertEdit)
  | update (table : Table) (edits : List UpdateEdit)
  | delete (table : Table) (edits : List DeleteEdit)
  | combination (combiner : Combiner) (members : List SelectArgument)
      (edits : List CombinationEdit)
  | difference (first second : SelectArgument) (edits : List DifferenceEdit)

def SelectArgument.selects : List SelectArgument → Logged (List Select)
  | [] => return []
  | argument :: rest => do
    return (← argument.select) :: (← selects rest)

def ScriptArgument.script : ScriptArgument → Logged Script
  | .select table edits => return .select (SelectArgument.start table) edits
  | .insert table edits => return .insert { table } edits
  | .update table edits => return .update { table } edits
  | .delete table edits => return .delete { table } edits
  | .combination combiner members edits => do
    return .combination { combiner, members := ← SelectArgument.selects members } edits
  | .difference first second edits => do
    return .difference { first := ← first.select, second := ← second.select } edits

/-- The statement that a script described leads to, if none of its edits fails. -/
def ScriptArgument.statement (argument : ScriptArgument) : Logged Statement := do
  let script ← argument.script
  let (statement, _) ← script.run .abort
  return statement

end BoundSql
