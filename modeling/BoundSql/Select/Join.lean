import BoundSql.Select.Basic
/-!
# Joins

Joins are registered under the names of their tables.  The first join of a name
stays: a later one of the same name is ignored, and the caller is led to the
first.  The result of a request to join is the place of the join among the joins
of the SELECT.
-/

namespace BoundSql.Select

def hasTableNamed (name : String) (select : Select) : Bool :=
  select.table.any fun table => table.name == name

def joinIndex? (select : Select) (name : String) : Option Nat :=
  select.joins.findIdx? (hasTableNamed name)

def pushJoin (join : Select) : Editing Select Nat := do
  let select ← .current
  .change fun select => { select with joins := select.joins ++ [join] }
  return select.joins.length

/-- Adds to a join's condition that its column equals the given one. -/
def linkTo (join : Select) (reference : Reference) (target : Column) : Select :=
  { join with link := join.link.compare reference .equals (.column target) }

def joinOf (table : Table) (columns : List String) (joinType : JoinType) : Select :=
  let join := { ofTable table with joinType := some joinType }
  if columns.isEmpty then join
  else join.setColumns (columns.map fun value => { value })

/-- Builds a new join of a table, of which the columns are set as those of any SELECT. -/
def openJoin (table : Table) (columns : List String) (joinType : JoinType) :
    Except Error Select :=
  let join := { ofTable table with joinType := some joinType }
  if columns.isEmpty then .ok join
  else (replaceColumns (columns.map fun value => { value }) join).outcome

theorem openJoin_eq (table : Table) (columns : List String) (joinType : JoinType) :
    openJoin table columns joinType = .ok (joinOf table columns joinType) := by
  rw [openJoin, joinOf]
  split
  · rfl
  · rw [replaceColumns_eq]
    rfl

/-- A join that is built is there for what comes next, since its columns are not refused. -/
theorem openJoin_bind {α : Type} (table : Table) (columns : List String) (joinType : JoinType)
    (next : Select → Editing Select α) :
    (do
      let join ← openJoin table columns joinType
      next join : Editing Select α) = next (joinOf table columns joinType) := by
  rw [openJoin_eq, Editing.ok_bind]

/-- Joins a table on the equality of one of its columns with a column of this
SELECT.  An ignored request is reported. -/
def join (table : Table) (own referred : Reference) (columns : List String)
    (joinType : JoinType) : Editing Select Nat := do
  let select ← .current
  match select.joinIndex? table.name with
  | some index =>
    Logged.report (some (.ignoredJoin table.name))
    return index
  | none =>
    let join ← openJoin table columns joinType
    pushJoin (join.linkTo referred (select.resolve own))

/-- Joins a table without a condition.  An ignored request is not reported. -/
def crossJoin (table : Table) (columns : List String) : Editing Select Nat := do
  let select ← .current
  match select.joinIndex? table.name with
  | some index => return index
  | none =>
    let join ← openJoin table columns .cross
    pushJoin join

/-- Joins a SELECT that is already built, on the equality of one of its columns
with a column of this one.  An ignored request is not reported. -/
def addJoin (child : Select) (own referred : Reference) : Editing Select Nat := do
  let select ← .current
  match child.table with
  | none => .fail (.missingContext .joinedTable)
  | some table =>
    match select.joinIndex? table.name with
    | some index => return index
    | none =>
      let child := { child with joinType := some (child.joinType.getD .plain) }
      pushJoin (child.linkTo referred (select.resolve own))

/-- An operation on the join at a place. -/
def withinJoin {α : Type} (index : Nat) : Editing Select α → Editing Select α :=
  .within (·.joins.getD index .unbound)
    fun select join => { select with joins := select.joins.set index join }

def setJoinType (select : Select) (joinType : JoinType) : Select :=
  { select with joinType := some joinType }

end BoundSql.Select
