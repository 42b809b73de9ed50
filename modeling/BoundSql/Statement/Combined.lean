import BoundSql.Select.Basic
/-!
# Set operations

A set operation combines whole SELECT statements.  UNION, UNION ALL and INTERSECT
take any number of them; MINUS takes two.
-/

namespace BoundSql

inductive Combiner where
  | union
  | unionAll
  | intersect
deriving DecidableEq

def Combiner.kind : Combiner → Kind
  | .union => .union
  | .unionAll => .unionAll
  | .intersect => .intersect

structure Combination where
  combiner : Combiner
  members : List Select := []
  comment : Option String := none

namespace Combination

def add (combination : Combination) (member : Select) : Combination :=
  { combination with members := combination.members ++ [member] }

def setComment (combination : Combination) (comment : String) : Combination :=
  { combination with comment := some (Text.singleLine comment) }

end Combination

/-- The rows of one SELECT that another does not have. -/
structure Difference where
  first : Select
  second : Select
  comment : Option String := none

namespace Difference

def members (difference : Difference) : List Select :=
  [difference.first, difference.second]

def setComment (difference : Difference) (comment : String) : Difference :=
  { difference with comment := some (Text.singleLine comment) }

end Difference

end BoundSql
