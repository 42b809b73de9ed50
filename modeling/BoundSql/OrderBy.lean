import BoundSql.Column
import BoundSql.Text.Blank
/-!
# Ordering

An entry of an ORDER BY clause is a column with a direction.
-/

namespace BoundSql

inductive Direction where
  | ascending
  | descending
deriving DecidableEq

namespace Direction

def keyword : Direction → String
  | .ascending => "ASC"
  | .descending => "DESC"

/-- The direction that a text names, in letters of either case. -/
def parse (text : String) : Except Error Direction :=
  match Text.keyword text with
  | "ASC" => .ok .ascending
  | "DESC" => .ok .descending
  | _ => .error (.invalidDirection text)

end Direction

structure OrderBy where
  column : Column
  direction : Direction
deriving DecidableEq

def OrderBy.parse (column : Column) (direction : String) : Except Error OrderBy := do
  return { column, direction := ← Direction.parse direction }

end BoundSql
