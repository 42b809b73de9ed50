import BoundSql.Statement
/-!
# Equality of statements

Two statements are equal when all their parts are, where numbers compare as
numbers: a statement that holds what is not a number differs even from itself.
-/

namespace BoundSql

def listEquals {Item : Type} (equals : Item → Item → Bool) : List Item → List Item → Bool
  | [], [] => true
  | left :: lefts, right :: rights => equals left right && listEquals equals lefts rights
  | _, _ => false

def RangeClause.equals (left right : RangeClause) : Bool :=
  left.subject == right.subject && left.low.equals right.low &&
    left.high.equals right.high && left.negated == right.negated

def MembershipClause.equals (left right : MembershipClause) : Bool :=
  left.subject == right.subject && listEquals Value.equals left.values right.values &&
    left.negated == right.negated

def BitClause.equals (left right : BitClause) : Bool :=
  left.subject == right.subject && left.value.equals right.value

def SearchClause.equals (left right : SearchClause) : Bool :=
  left.columns == right.columns && listEquals Value.equals left.values right.values &&
    left.mode == right.mode

def ValueColumn.equals (left right : ValueColumn) : Bool :=
  left.value.equals right.value && left.aliasName == right.aliasName

def Assignment.equals (left right : Assignment) : Bool :=
  left.column == right.column && left.value.equals right.value

/-- Equality of the clauses of a condition that hold no statement. -/
def Condition.plainEquals (left right : Condition) : Bool :=
  left.table == right.table && left.conjunction == right.conjunction &&
    listEquals RangeClause.equals left.ranges right.ranges &&
    listEquals MembershipClause.equals left.memberships right.memberships &&
    left.nullChecks == right.nullChecks &&
    listEquals BitClause.equals left.bits right.bits &&
    listEquals SearchClause.equals left.searches right.searches &&
    left.literals == right.literals

/-- Equality of the parts of a SELECT that hold no statement or condition. -/
def Select.plainEquals (left right : Select) : Bool :=
  left.table == right.table && left.comment == right.comment &&
    left.joinType == right.joinType && left.columns == right.columns &&
    listEquals ValueColumn.equals left.valueColumns right.valueColumns &&
    left.functionColumns == right.functionColumns && left.count == right.count &&
    left.distinct == right.distinct && left.groupBy == right.groupBy &&
    left.orderBy == right.orderBy && left.window == right.window

mutual

def Operand.equals : Operand → Operand → Bool
  | .value left, .value right => left.equals right
  | .column left, .column right => left == right
  | .select left, .select right => left.equals right
  | _, _ => false

def ComparisonClause.equals : ComparisonClause → ComparisonClause → Bool
  | { subject, relation, target }, right =>
    subject == right.subject && relation == right.relation && target.equals right.target

def comparisonsEqual : List ComparisonClause → List ComparisonClause → Bool
  | [], [] => true
  | left :: lefts, right :: rights => left.equals right && comparisonsEqual lefts rights
  | _, _ => false

def existencesEqual : List ExistenceClause → List ExistenceClause → Bool
  | [], [] => true
  | { select, negated } :: lefts, right :: rights =>
    select.equals right.select && negated == right.negated && existencesEqual lefts rights
  | _, _ => false

def Condition.equals : Condition → Condition → Bool
  | left@{ comparisons, existences, subconditions, .. }, right =>
    left.plainEquals right && comparisonsEqual comparisons right.comparisons &&
      existencesEqual existences right.existences &&
      conditionsEqual subconditions right.subconditions

def conditionsEqual : List Condition → List Condition → Bool
  | [], [] => true
  | left :: lefts, right :: rights => left.equals right && conditionsEqual lefts rights
  | _, _ => false

def maybeConditionsEqual : Option Condition → Option Condition → Bool
  | none, none => true
  | some left, some right => left.equals right
  | _, _ => false

def queryColumnsEqual : List QueryColumn → List QueryColumn → Bool
  | [], [] => true
  | { select, aliasName } :: lefts, right :: rights =>
    select.equals right.select && aliasName == right.aliasName && queryColumnsEqual lefts rights
  | _, _ => false

def Select.equals : Select → Select → Bool
  | left@{ link, queryColumns, joins, filter, having, .. }, right =>
    left.plainEquals right && link.equals right.link &&
      queryColumnsEqual queryColumns right.queryColumns &&
      selectsEqual joins right.joins && maybeConditionsEqual filter right.filter &&
      maybeConditionsEqual having right.having

def selectsEqual : List Select → List Select → Bool
  | [], [] => true
  | left :: lefts, right :: rights => left.equals right && selectsEqual lefts rights
  | _, _ => false

end

def Statement.equals : Statement → Statement → Bool
  | .select left, .select right => left.equals right
  | .insert left, .insert right =>
    left.table == right.table && left.comment == right.comment &&
      listEquals Assignment.equals left.assignments right.assignments
  | .update left, .update right =>
    left.table == right.table && left.comment == right.comment &&
      listEquals Assignment.equals left.assignments right.assignments &&
      maybeConditionsEqual left.filter right.filter && left.limit == right.limit
  | .delete left, .delete right =>
    left.table == right.table && left.comment == right.comment &&
      maybeConditionsEqual left.filter right.filter && left.limit == right.limit
  | .combination left, .combination right =>
    left.combiner == right.combiner && selectsEqual left.members right.members &&
      left.comment == right.comment
  | .difference left, .difference right =>
    left.first.equals right.first && left.second.equals right.second &&
      left.comment == right.comment
  | _, _ => false

end BoundSql
