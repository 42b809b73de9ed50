import BoundSql.Column
/-!
# Shorthand for columns and tables

A list of columns can be given as values with optional keys.  A key is an alias
unless it is empty or a mere number, as the positions of a list are.
-/

namespace BoundSql

/-- A name, perhaps with a key. -/
structure Shorthand where
  key : Option String := none
  value : String
deriving DecidableEq

namespace Shorthand

def alias? (shorthand : Shorthand) : Option String :=
  shorthand.key.filter fun key => !key.isEmpty && !key.toList.all Char.isDigit

/-- The column that is meant where `context` is the table at hand.  The column
`*` takes no alias. -/
def column (context : Option Table) (shorthand : Shorthand) : Column :=
  { name := shorthand.value
    table := context
    aliasName := if shorthand.value == wildcard then none else shorthand.alias? }

/-- Builds the column as any other: first without an alias, which is set afterwards and could
be refused. -/
def build (context : Option Table) (shorthand : Shorthand) : Except Error Column :=
  let plain : Column := { name := shorthand.value, table := context }
  if shorthand.value == wildcard then
    .ok plain
  else
    match shorthand.alias? with
    | none => .ok plain
    | some aliasName => (Column.setAlias aliasName plain).outcome

def buildAll (context : Option Table) : List Shorthand → Except Error (List Column)
  | [] => .ok []
  | shorthand :: rest => do
    return (← shorthand.build context) :: (← buildAll context rest)

/-- No alias that a shorthand implies is refused, since the column `*` is never given one. -/
theorem build_eq (context : Option Table) (shorthand : Shorthand) :
    shorthand.build context = .ok (shorthand.column context) := by
  rw [build, column]
  split
  · rfl
  · next named =>
    cases implied : shorthand.alias? with
    | none => rfl
    | some aliasName =>
      have keyed := (Option.filter_eq_some_iff.mp implied).2
      simp only [Bool.and_eq_true, Bool.not_eq_true'] at keyed
      change (Column.setAlias aliasName _).outcome = _
      rw [Column.setAlias, Editing.current_bind, if_neg (by simp [keyed.1]),
        Column.isWildcard, if_neg named]
      rfl

theorem buildAll_eq (context : Option Table) (shorthands : List Shorthand) :
    buildAll context shorthands = .ok (shorthands.map (column context)) := by
  induction shorthands with
  | nil => rfl
  | cons shorthand rest ih =>
    rw [buildAll, build_eq, ih]
    rfl

def table (shorthand : Shorthand) : Table :=
  { name := shorthand.value, aliasName := shorthand.alias? }

end Shorthand

end BoundSql
