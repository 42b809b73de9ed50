import BoundSql.Edit.Basic
import BoundSql.Edit.Reply
import BoundSql.Select.Flatten
import BoundSql.Select.Join
/-!
# Running edits of columns, conditions and SELECTs

The arguments of an edit are worked out from left to right before it is applied.  What
it changes is changed in its place, and stays so if the edit fails later.
-/

namespace BoundSql

def ColumnArgument.references : List ColumnArgument → Except Error (List Reference)
  | [] => .ok []
  | argument :: rest => do
    return (← argument.reference) :: (← references rest)

def ColumnEdit.run : ColumnEdit → Editing Column Reply
  | .setName name => .done (·.setName name)
  | .setAlias aliasName => do
    Column.setAlias aliasName
    return .done
  | .setTable table => .done (·.setTable table)

def SelectArgument.start (table : Option Table) : Select :=
  match table with
  | none => .unbound
  | some table => .ofTable table

mutual

def OperandArgument.operand : OperandArgument → Logged Operand
  | .value value => return .value value
  | .column spelling => return .column (← spelling.column)
  | .select argument => return .select (← argument.select)

def SelectArgument.select : SelectArgument → Logged Select
  | { table, edits } => do
    let (select, _) ← (SelectEdit.runAll .abort edits (SelectArgument.start table)).logged
    return select

def ConditionEdit.run (policy : OnFailure) : ConditionEdit → Editing Condition Reply
  | .compare subject relation target => do
    let subject ← subject.reference
    let target ← target.operand
    .done (·.compare subject relation target)
  | .addMembership subject values negated => do
    let subject ← subject.reference
    .done (·.addMembership subject values negated)
  | .addRange subject low high negated => do
    let subject ← subject.reference
    .done (·.addRange subject low high negated)
  | .addNullCheck subject negated => do
    let subject ← subject.reference
    .done (·.addNullCheck subject negated)
  | .addBit subject value => do
    let subject ← subject.reference
    .done (·.addBit subject value)
  | .addSearch columns values mode => do
    let columns ← ColumnArgument.references columns
    .done (·.addSearch columns values mode)
  | .addExistence argument negated => do
    let select ← argument.select
    .done (·.addExistence select negated)
  | .addLiteral sql => .done (·.addLiteral sql)
  | .setConjunction text => do
    Condition.setConjunction text
    return .done
  | .useConjunction conjunction => .done (·.useConjunction conjunction)
  | .addSubcondition conjunction edits => do
    let replies ← .within (·.nested conjunction) Condition.addSubcondition
      (ConditionEdit.runAll policy edits)
    return .within replies
  | .replace table => .done fun _ => .bound table
  | .inspect => do
    let condition ← .current
    return .condition condition

def ConditionEdit.runAll (policy : OnFailure) :
    List ConditionEdit → Editing Condition (List Reply)
  | [] => return []
  | edit :: rest => do
    let reply ← policy.settle (edit.run policy)
    let replies ← ConditionEdit.runAll policy rest
    return reply :: replies

def SelectEdit.run (policy : OnFailure) : SelectEdit → Editing Select Reply
  | .setTable table => .done (·.setTable table)
  | .setComment comment => .done (·.setComment comment)
  | .setColumns columns => do
    Select.replaceColumns columns
    return .done
  | .addQueryColumn argument aliasName => do
    let query ← argument.select
    .done (·.addQueryColumn query aliasName)
  | .addValueColumn value aliasName => .done (·.addValueColumn value aliasName)
  | .addFunctionColumn function arguments aliasName =>
    .done (·.addFunctionColumn function arguments aliasName)
  | .setCount column aliasName => .done (·.setCount column aliasName)
  | .setDistinct => .done (·.setDistinct)
  | .join table own referred columns joinType edits => do
    let own ← own.reference
    let referred ← referred.reference
    let index ← Select.join table own referred columns joinType
    let replies ← Select.withinJoin index (SelectEdit.runAll policy edits)
    return .within replies
  | .crossJoin table columns edits => do
    let index ← Select.crossJoin table columns
    let replies ← Select.withinJoin index (SelectEdit.runAll policy edits)
    return .within replies
  | .addJoin argument own referred edits => do
    let child ← argument.select
    let own ← own.reference
    let referred ← referred.reference
    let index ← Select.addJoin child own referred
    let replies ← Select.withinJoin index (SelectEdit.runAll policy edits)
    return .within replies
  | .setJoinType joinType => .done (·.setJoinType joinType)
  | .editOn edits => do
    let replies ← .within Select.link ({ · with link := · })
      (ConditionEdit.runAll policy edits)
    return .within replies
  | .editFilter edits => do
    let replies ← .within Select.filterOrNew ({ · with filter := some · })
      (ConditionEdit.runAll policy edits)
    return .within replies
  | .editHaving conjunction edits => do
    let replies ← .within (·.havingUnder conjunction) ({ · with having := some · })
      (ConditionEdit.runAll policy edits)
    return .within replies
  | .editHavingNamed text edits => do
    let conjunction ← Conjunction.parse text
    let replies ← .within (·.havingUnder conjunction) ({ · with having := some · })
      (ConditionEdit.runAll policy edits)
    return .within replies
  | .addGroupBy columns => do
    let columns ← ColumnArgument.references columns
    .done (·.addGroupBy columns)
  | .orderRows column direction => do
    let column ← column.reference
    .done (·.orderRows column direction)
  | .orderRowsNamed column text => do
    let column ← column.column
    let entry ← OrderBy.parse column text
    .done (·.addOrderBy entry)
  | .setWindow start count => .done (·.setWindow start count)
  | .setRowCount count => .done (·.setRowCount count)
  | .setStart start => .done (·.setStart start)
  | .copy edits => do
    let select ← .current
    let (edited, replies) ← .onCopy (SelectEdit.runAll policy edits)
    return .copied replies (.select select) (.select edited)
  | .listColumns withJoins => do
    let select ← .current
    let columns ← if withJoins then select.allColumns else select.ownColumns
    return .columns columns
  | .ask part => do
    let select ← .current
    (Statement.select select).answer part
  | .inspect => do
    let select ← .current
    return .statement (.select select)

def SelectEdit.runAll (policy : OnFailure) :
    List SelectEdit → Editing Select (List Reply)
  | [] => return []
  | edit :: rest => do
    let reply ← policy.settle (edit.run policy)
    let replies ← SelectEdit.runAll policy rest
    return reply :: replies

end

end BoundSql
