import BoundSql.Select.Basic
/-!
# Edits

An edit is one operation on a column, condition or SELECT, given as data.  Some edits
lead to a part of the statement, a subcondition or a join, and carry the edits of that
part.  A SELECT that an edit is given is itself described by edits.
-/

namespace BoundSql

/-- An edit of a column that stands alone. -/
inductive ColumnEdit where
  | setName (name : String)
  | setAlias (aliasName : String)
  | setTable (table : Table)

/-- A column spelled out.  Its alias may not suit its name. -/
structure ColumnSpelling where
  name : String
  table : Option Table := none
  aliasName : Option String := none

def ColumnSpelling.column (spelling : ColumnSpelling) : Except Error Column :=
  let plain : Column := { name := spelling.name, table := spelling.table }
  match spelling.aliasName with
  | none => .ok plain
  | some aliasName => (Column.setAlias aliasName plain).outcome

inductive ColumnArgument where
  | bare (name : String)
  | spelled (spelling : ColumnSpelling)

def ColumnArgument.reference : ColumnArgument → Except Error Reference
  | .bare name => .ok (.bare name)
  | .spelled spelling => spelling.column.map .column

mutual

inductive OperandArgument where
  | value (value : Value)
  | column (spelling : ColumnSpelling)
  | select (argument : SelectArgument)

/-- A SELECT as an edit is given it: one of a table, or without a table, after some
edits.  An edit of these that fails spoils the whole. -/
structure SelectArgument where
  table : Option Table
  edits : List SelectEdit

inductive ConditionEdit where
  | compare (subject : ColumnArgument) (relation : Relation) (target : OperandArgument)
  | addMembership (subject : ColumnArgument) (values : List Value) (negated : Bool)
  | addRange (subject : ColumnArgument) (low high : Value) (negated : Bool)
  | addNullCheck (subject : ColumnArgument) (negated : Bool)
  | addBit (subject : ColumnArgument) (value : Value)
  | addSearch (columns : List ColumnArgument) (values : List Value) (mode : SearchMode)
  | addExistence (argument : SelectArgument) (negated : Bool)
  | addLiteral (sql : String)
  | setConjunction (text : String)
  | useConjunction (conjunction : Conjunction)
  | addSubcondition (conjunction : Conjunction) (edits : List ConditionEdit)
  /-- Puts a condition without clauses in place of this one. -/
  | replace (table : Option Table)
  /-- Changes nothing and replies with the condition. -/
  | inspect

inductive SelectEdit where
  | setTable (table : Table)
  | setComment (comment : String)
  | setColumns (columns : List Shorthand)
  | addQueryColumn (argument : SelectArgument) (aliasName : String)
  | addValueColumn (value : Value) (aliasName : String)
  | addFunctionColumn (function : String) (arguments : List String) (aliasName : String)
  | setCount (column aliasName : String)
  | setDistinct
  /-- Joins a table and edits the join of its name. -/
  | join (table : Table) (own referred : ColumnArgument) (columns : List String)
      (joinType : JoinType) (edits : List SelectEdit)
  | crossJoin (table : Table) (columns : List String) (edits : List SelectEdit)
  | addJoin (child : SelectArgument) (own referred : ColumnArgument)
      (edits : List SelectEdit)
  | setJoinType (joinType : JoinType)
  | editOn (edits : List ConditionEdit)
  | editFilter (edits : List ConditionEdit)
  | editHaving (conjunction : Conjunction) (edits : List ConditionEdit)
  /-- Edits the HAVING condition under the conjunction that a text names. -/
  | editHavingNamed (text : String) (edits : List ConditionEdit)
  | addGroupBy (columns : List ColumnArgument)
  | orderRows (column : ColumnArgument) (direction : Direction)
  | orderRowsNamed (column : ColumnSpelling) (text : String)
  | setWindow (start count : Nat)
  | setRowCount (count : Nat)
  | setStart (start : Nat)
  /-- Edits a copy, which the reply shows beside the SELECT. -/
  | copy (edits : List SelectEdit)
  /-- Replies with the columns that are returned, perhaps also by the joins. -/
  | listColumns (withJoins : Bool)
  | ask (part : Part)
  | inspect

end

end BoundSql
