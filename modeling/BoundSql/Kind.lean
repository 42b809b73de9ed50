/-!
# Kinds of statements
-/

namespace BoundSql

inductive Kind where
  | select
  | insert
  | update
  | delete
  | union
  | unionAll
  | intersect
  | minus
deriving DecidableEq, Repr

namespace Kind

/-- The name of a kind, which between two members of a set operation is its
keyword. -/
def name : Kind → String
  | .select => "SELECT"
  | .insert => "INSERT"
  | .update => "UPDATE"
  | .delete => "DELETE"
  | .union => "UNION"
  | .unionAll => "UNION ALL"
  | .intersect => "INTERSECT"
  | .minus => "MINUS"

def isSetOperation : Kind → Bool
  | .union | .unionAll | .intersect | .minus => true
  | .select | .insert | .update | .delete => false

end Kind

end BoundSql
