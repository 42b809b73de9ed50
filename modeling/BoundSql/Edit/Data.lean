import BoundSql.Edit.Run
/-!
# Edits of the other statements

Edits of statements that change data and of set operations.  A part that a kind of
statement does not have cannot be edited.
-/

namespace BoundSql

inductive InsertEdit where
  | set (column : ColumnArgument) (value : Value)
  | setAll (values : List (ColumnArgument × Value))
  | setTable (table : Table)
  | setComment (comment : String)
  | editFilter (edits : List ConditionEdit)
  | copy (edits : List InsertEdit)
  | ask (part : Part)
  | inspect

inductive UpdateEdit where
  | set (column : ColumnArgument) (value : Value)
  | setAll (values : List (ColumnArgument × Value))
  | setTable (table : Table)
  | setComment (comment : String)
  | editFilter (edits : List ConditionEdit)
  | setLimit (rows : Nat)
  | copy (edits : List UpdateEdit)
  | ask (part : Part)
  | inspect

inductive DeleteEdit where
  | setTable (table : Table)
  | setComment (comment : String)
  | editFilter (edits : List ConditionEdit)
  | setLimit (rows : Nat)
  | copy (edits : List DeleteEdit)
  | ask (part : Part)
  | inspect

inductive CombinationEdit where
  | add (argument : SelectArgument)
  | setComment (comment : String)
  | editFilter (edits : List ConditionEdit)
  | copy (edits : List CombinationEdit)
  | ask (part : Part)
  | inspect

inductive DifferenceEdit where
  | setComment (comment : String)
  | editFilter (edits : List ConditionEdit)
  | copy (edits : List DifferenceEdit)
  | ask (part : Part)
  | inspect

def ColumnArgument.assignments :
    List (ColumnArgument × Value) → Except Error (List (Reference × Value))
  | [] => .ok []
  | (column, value) :: rest => do
    return (← column.reference, value) :: (← assignments rest)

mutual

def InsertEdit.run (policy : OnFailure) : InsertEdit → Editing Insert Reply
  | .set column value => do
    let column ← column.reference
    .done (·.set column value)
  | .setAll values => do
    let values ← ColumnArgument.assignments values
    .done (·.setAll values)
  | .setTable table => .done (·.setTable table)
  | .setComment comment => .done (·.setComment comment)
  | .editFilter _ => .fail (.unsupported .insert .filter)
  | .copy edits => do
    let insert ← .current
    let (edited, replies) ← .onCopy (InsertEdit.runAll policy edits)
    return .copied replies (.insert insert) (.insert edited)
  | .ask part => do
    let insert ← .current
    (Statement.insert insert).answer part
  | .inspect => do
    let insert ← .current
    return .statement (.insert insert)

def InsertEdit.runAll (policy : OnFailure) :
    List InsertEdit → Editing Insert (List Reply)
  | [] => return []
  | edit :: rest => do
    let reply ← policy.settle (edit.run policy)
    let replies ← InsertEdit.runAll policy rest
    return reply :: replies

end

mutual

def UpdateEdit.run (policy : OnFailure) : UpdateEdit → Editing Update Reply
  | .set column value => do
    let column ← column.reference
    .done (·.set column value)
  | .setAll values => do
    let values ← ColumnArgument.assignments values
    .done (·.setAll values)
  | .setTable table => .done (·.setTable table)
  | .setComment comment => .done (·.setComment comment)
  | .editFilter edits => do
    let replies ← .within Update.filterOrNew ({ · with filter := some · })
      (ConditionEdit.runAll policy edits)
    return .within replies
  | .setLimit rows => .done ({ · with limit := some rows })
  | .copy edits => do
    let update ← .current
    let (edited, replies) ← .onCopy (UpdateEdit.runAll policy edits)
    return .copied replies (.update update) (.update edited)
  | .ask part => do
    let update ← .current
    (Statement.update update).answer part
  | .inspect => do
    let update ← .current
    return .statement (.update update)

def UpdateEdit.runAll (policy : OnFailure) :
    List UpdateEdit → Editing Update (List Reply)
  | [] => return []
  | edit :: rest => do
    let reply ← policy.settle (edit.run policy)
    let replies ← UpdateEdit.runAll policy rest
    return reply :: replies

end

mutual

def DeleteEdit.run (policy : OnFailure) : DeleteEdit → Editing Delete Reply
  | .setTable table => .done (·.setTable table)
  | .setComment comment => .done (·.setComment comment)
  | .editFilter edits => do
    let replies ← .within Delete.filterOrNew ({ · with filter := some · })
      (ConditionEdit.runAll policy edits)
    return .within replies
  | .setLimit rows => .done ({ · with limit := some rows })
  | .copy edits => do
    let delete ← .current
    let (edited, replies) ← .onCopy (DeleteEdit.runAll policy edits)
    return .copied replies (.delete delete) (.delete edited)
  | .ask part => do
    let delete ← .current
    (Statement.delete delete).answer part
  | .inspect => do
    let delete ← .current
    return .statement (.delete delete)

def DeleteEdit.runAll (policy : OnFailure) :
    List DeleteEdit → Editing Delete (List Reply)
  | [] => return []
  | edit :: rest => do
    let reply ← policy.settle (edit.run policy)
    let replies ← DeleteEdit.runAll policy rest
    return reply :: replies

end

mutual

def CombinationEdit.run (policy : OnFailure) : CombinationEdit → Editing Combination Reply
  | .add argument => do
    let select ← argument.select
    .done (·.add select)
  | .setComment comment => .done (·.setComment comment)
  | .editFilter _ => do
    let combination ← .current
    .fail (.unsupported combination.combiner.kind .filter)
  | .copy edits => do
    let combination ← .current
    let (edited, replies) ← .onCopy (CombinationEdit.runAll policy edits)
    return .copied replies (.combination combination) (.combination edited)
  | .ask part => do
    let combination ← .current
    (Statement.combination combination).answer part
  | .inspect => do
    let combination ← .current
    return .statement (.combination combination)

def CombinationEdit.runAll (policy : OnFailure) :
    List CombinationEdit → Editing Combination (List Reply)
  | [] => return []
  | edit :: rest => do
    let reply ← policy.settle (edit.run policy)
    let replies ← CombinationEdit.runAll policy rest
    return reply :: replies

end

mutual

def DifferenceEdit.run (policy : OnFailure) : DifferenceEdit → Editing Difference Reply
  | .setComment comment => .done (·.setComment comment)
  | .editFilter _ => .fail (.unsupported .minus .filter)
  | .copy edits => do
    let difference ← .current
    let (edited, replies) ← .onCopy (DifferenceEdit.runAll policy edits)
    return .copied replies (.difference difference) (.difference edited)
  | .ask part => do
    let difference ← .current
    (Statement.difference difference).answer part
  | .inspect => do
    let difference ← .current
    return .statement (.difference difference)

def DifferenceEdit.runAll (policy : OnFailure) :
    List DifferenceEdit → Editing Difference (List Reply)
  | [] => return []
  | edit :: rest => do
    let reply ← policy.settle (edit.run policy)
    let replies ← DifferenceEdit.runAll policy rest
    return reply :: replies

end

end BoundSql
