import BoundSql.Edit.Script
/-!
# Leaving out the edits that failed

The replies of a run tell which of its edits failed, at every depth: an edit that
carries others replies with their replies.  Trimming an edit by its reply leaves out of
it what failed.
-/

namespace BoundSql

namespace Reply

def isFailure : Reply → Bool
  | .failed _ => true
  | _ => false

/-- The replies of the edits that the edit carries. -/
def inner : Reply → List Reply
  | .within replies => replies
  | .copied replies _ _ => replies
  | _ => []

end Reply

def ColumnEdit.trimAll : List Reply → List ColumnEdit → List ColumnEdit
  | reply :: replies, edit :: rest =>
    if reply.isFailure then ColumnEdit.trimAll replies rest
    else edit :: ColumnEdit.trimAll replies rest
  | _, _ => []

mutual

def ConditionEdit.trim (reply : Reply) : ConditionEdit → ConditionEdit
  | .addSubcondition conjunction edits =>
    .addSubcondition conjunction (ConditionEdit.trimAll reply.inner edits)
  | edit => edit

def ConditionEdit.trimAll : List Reply → List ConditionEdit → List ConditionEdit
  | reply :: replies, edit :: rest =>
    if reply.isFailure then ConditionEdit.trimAll replies rest
    else edit.trim reply :: ConditionEdit.trimAll replies rest
  | _, _ => []

end

mutual

def SelectEdit.trim (reply : Reply) : SelectEdit → SelectEdit
  | .join table own referred columns joinType edits =>
    .join table own referred columns joinType (SelectEdit.trimAll reply.inner edits)
  | .crossJoin table columns edits =>
    .crossJoin table columns (SelectEdit.trimAll reply.inner edits)
  | .addJoin child own referred edits =>
    .addJoin child own referred (SelectEdit.trimAll reply.inner edits)
  | .editOn edits => .editOn (ConditionEdit.trimAll reply.inner edits)
  | .editFilter edits => .editFilter (ConditionEdit.trimAll reply.inner edits)
  | .editHaving conjunction edits =>
    .editHaving conjunction (ConditionEdit.trimAll reply.inner edits)
  | .editHavingNamed text edits =>
    .editHavingNamed text (ConditionEdit.trimAll reply.inner edits)
  | .copy edits => .copy (SelectEdit.trimAll reply.inner edits)
  | edit => edit

def SelectEdit.trimAll : List Reply → List SelectEdit → List SelectEdit
  | reply :: replies, edit :: rest =>
    if reply.isFailure then SelectEdit.trimAll replies rest
    else edit.trim reply :: SelectEdit.trimAll replies rest
  | _, _ => []

end

mutual

def InsertEdit.trim (reply : Reply) : InsertEdit → InsertEdit
  | .copy edits => .copy (InsertEdit.trimAll reply.inner edits)
  | edit => edit

def InsertEdit.trimAll : List Reply → List InsertEdit → List InsertEdit
  | reply :: replies, edit :: rest =>
    if reply.isFailure then InsertEdit.trimAll replies rest
    else edit.trim reply :: InsertEdit.trimAll replies rest
  | _, _ => []

end

mutual

def UpdateEdit.trim (reply : Reply) : UpdateEdit → UpdateEdit
  | .editFilter edits => .editFilter (ConditionEdit.trimAll reply.inner edits)
  | .copy edits => .copy (UpdateEdit.trimAll reply.inner edits)
  | edit => edit

def UpdateEdit.trimAll : List Reply → List UpdateEdit → List UpdateEdit
  | reply :: replies, edit :: rest =>
    if reply.isFailure then UpdateEdit.trimAll replies rest
    else edit.trim reply :: UpdateEdit.trimAll replies rest
  | _, _ => []

end

mutual

def DeleteEdit.trim (reply : Reply) : DeleteEdit → DeleteEdit
  | .editFilter edits => .editFilter (ConditionEdit.trimAll reply.inner edits)
  | .copy edits => .copy (DeleteEdit.trimAll reply.inner edits)
  | edit => edit

def DeleteEdit.trimAll : List Reply → List DeleteEdit → List DeleteEdit
  | reply :: replies, edit :: rest =>
    if reply.isFailure then DeleteEdit.trimAll replies rest
    else edit.trim reply :: DeleteEdit.trimAll replies rest
  | _, _ => []

end

mutual

def CombinationEdit.trim (reply : Reply) : CombinationEdit → CombinationEdit
  | .copy edits => .copy (CombinationEdit.trimAll reply.inner edits)
  | edit => edit

def CombinationEdit.trimAll : List Reply → List CombinationEdit → List CombinationEdit
  | reply :: replies, edit :: rest =>
    if reply.isFailure then CombinationEdit.trimAll replies rest
    else edit.trim reply :: CombinationEdit.trimAll replies rest
  | _, _ => []

end

mutual

def DifferenceEdit.trim (reply : Reply) : DifferenceEdit → DifferenceEdit
  | .copy edits => .copy (DifferenceEdit.trimAll reply.inner edits)
  | edit => edit

def DifferenceEdit.trimAll : List Reply → List DifferenceEdit → List DifferenceEdit
  | reply :: replies, edit :: rest =>
    if reply.isFailure then DifferenceEdit.trimAll replies rest
    else edit.trim reply :: DifferenceEdit.trimAll replies rest
  | _, _ => []

end

/-- The script without the edits that failed. -/
def Script.trim (replies : List Reply) : Script → Script
  | .select start edits => .select start (SelectEdit.trimAll replies edits)
  | .insert start edits => .insert start (InsertEdit.trimAll replies edits)
  | .update start edits => .update start (UpdateEdit.trimAll replies edits)
  | .delete start edits => .delete start (DeleteEdit.trimAll replies edits)
  | .combination start edits => .combination start (CombinationEdit.trimAll replies edits)
  | .difference start edits => .difference start (DifferenceEdit.trimAll replies edits)

end BoundSql
