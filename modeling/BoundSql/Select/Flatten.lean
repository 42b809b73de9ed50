import BoundSql.Select.Basic
/-!
# Flattening

What a SELECT and its joins hold together is listed depth first: first what is
the SELECT's own, then what each of its joins holds with its own joins.
-/

namespace BoundSql.Select

mutual

/-- The joins of a SELECT, each followed by its own joins. -/
def allJoins : Select → List Select
  | { joins, .. } => withAllJoins joins

def withAllJoins : List Select → List Select
  | [] => []
  | select :: rest => select :: (select.allJoins ++ withAllJoins rest)

end

def flattened (select : Select) : List Select :=
  select :: select.allJoins

mutual

/-- What the SELECT and all its joins hold, where `own` lists what one of them
holds. -/
def gather {Item : Type} (own : Select → List Item) : Select → List Item
  | select@{ joins, .. } => own select ++ gatherAll own joins

def gatherAll {Item : Type} (own : Select → List Item) : List Select → List Item
  | [] => []
  | select :: rest => select.gather own ++ gatherAll own rest

end

def allQueryColumns (select : Select) : List QueryColumn :=
  select.gather Select.queryColumns

def allValueColumns (select : Select) : List ValueColumn :=
  select.gather Select.valueColumns

def allFunctionColumns (select : Select) : List FunctionColumn :=
  select.gather Select.functionColumns

def allFilters (select : Select) : List Condition :=
  select.gather fun one => one.filter.toList

def allHavings (select : Select) : List Condition :=
  select.gather fun one => one.having.toList

def allOrderBy (select : Select) : List OrderBy :=
  select.gather Select.orderBy

mutual

/-- The columns that the SELECT and all its joins return.  Each needs a table. -/
def allColumns : Select → Except Error (List Column)
  | select@{ joins, .. } => do
    return (← select.ownColumns) ++ (← allColumnsOf joins)

def allColumnsOf : List Select → Except Error (List Column)
  | [] => .ok []
  | select :: rest => do
    return (← select.allColumns) ++ (← allColumnsOf rest)

end

end BoundSql.Select
