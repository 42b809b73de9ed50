import BoundSql.Statement.Basic
/-!
# Building conditions

Each operation adds one clause at the end of the clauses of its kind.  A bare
column name belongs to the condition's table at the time it is given.
-/

namespace BoundSql.Condition

instance : Inhabited Condition := ⟨{}⟩

/-- The condition without clauses whose bare names belong to a table, or to
none. -/
def bound (table : Option Table) : Condition := { table }

def resolve (condition : Condition) (reference : Reference) : Column :=
  reference.resolve condition.table

def compare (condition : Condition) (subject : Reference) (relation : Relation)
    (target : Operand) : Condition :=
  { condition with
    comparisons := condition.comparisons ++
      [{ subject := condition.resolve subject, relation, target }] }

def addMembership (condition : Condition) (subject : Reference) (values : List Value)
    (negated : Bool) : Condition :=
  { condition with
    memberships := condition.memberships ++
      [{ subject := condition.resolve subject, values, negated }] }

def addRange (condition : Condition) (subject : Reference) (low high : Value)
    (negated : Bool) : Condition :=
  { condition with
    ranges := condition.ranges ++
      [{ subject := condition.resolve subject, low, high, negated }] }

def addNullCheck (condition : Condition) (subject : Reference) (negated : Bool) :
    Condition :=
  { condition with
    nullChecks := condition.nullChecks ++
      [{ subject := condition.resolve subject, negated }] }

def addBit (condition : Condition) (subject : Reference) (value : Value) : Condition :=
  { condition with
    bits := condition.bits ++ [{ subject := condition.resolve subject, value }] }

def addSearch (condition : Condition) (columns : List Reference) (values : List Value)
    (mode : SearchMode) : Condition :=
  { condition with
    searches := condition.searches ++
      [{ columns := columns.map condition.resolve, values, mode }] }

def addExistence (condition : Condition) (select : Select) (negated : Bool) : Condition :=
  { condition with
    existences := condition.existences ++ [{ select, negated }] }

def addLiteral (condition : Condition) (sql : String) : Condition :=
  { condition with literals := condition.literals ++ [sql] }

def addSubcondition (condition subcondition : Condition) : Condition :=
  { condition with subconditions := condition.subconditions ++ [subcondition] }

def nested (condition : Condition) (conjunction : Conjunction) : Condition :=
  { table := condition.table, conjunction }

def useConjunction (condition : Condition) (conjunction : Conjunction) : Condition :=
  { condition with conjunction }

def setConjunction (text : String) : Editing Condition Unit := do
  let conjunction ← Conjunction.parse text
  .change (·.useConjunction conjunction)

/-- Whether there is no clause of the eight kinds that are not subconditions. -/
def hasNoOwnClause (condition : Condition) : Bool :=
  condition.comparisons.isEmpty && condition.ranges.isEmpty &&
    condition.memberships.isEmpty && condition.nullChecks.isEmpty &&
    condition.bits.isEmpty && condition.searches.isEmpty &&
    condition.existences.isEmpty && condition.literals.isEmpty

def isEmpty (condition : Condition) : Bool :=
  condition.hasNoOwnClause && condition.subconditions.isEmpty

mutual

/-- The condition with another table for the bare names to come, in it and in
all its subconditions.  Columns that are there already stay as they are. -/
def rebind (table : Option Table) : Condition → Condition
  | condition@{ subconditions, .. } =>
    { condition with table, subconditions := rebindAll table subconditions }

def rebindAll (table : Option Table) : List Condition → List Condition
  | [] => []
  | condition :: rest => condition.rebind table :: rebindAll table rest

end

mutual

/-- Whether no clause is to be written, at any depth. -/
def rendersEmpty : Condition → Bool
  | condition@{ subconditions, .. } =>
    condition.hasNoOwnClause && allRenderEmpty subconditions

def allRenderEmpty : List Condition → Bool
  | [] => true
  | condition :: rest => condition.rendersEmpty && allRenderEmpty rest

end

end BoundSql.Condition
