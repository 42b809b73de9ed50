import BoundSql.Proofs.Draft.Statements
import Mathlib.Data.List.Forall2
/-!
# The shape of a join tree

A SELECT is composed of what it and all its joins contribute, and the joins are
listed depth first.  Which of them is joined to which other one cannot be seen, nor
can what a join holds beside the parts that it contributes: its comment, its
grouping, its window and whether it is counted or distinct.

A SELECT that counts does not even return columns, its own or those of a join.
-/

namespace BoundSql

namespace Select

/-! ### Joins that contribute the same -/

/-- Two joins contribute the same apart from columns. -/
structure SameSource (first second : Select) : Prop where
  table : first.table = second.table
  joinType : first.joinType = second.joinType
  link : first.link = second.link
  filter : first.filter = second.filter
  having : first.having = second.having
  orderBy : first.orderBy = second.orderBy

/-- Two joins contribute the same. -/
structure SameJoin (first second : Select) : Prop extends SameSource first second where
  columns : first.columns = second.columns
  queryColumns : first.queryColumns = second.queryColumns
  valueColumns : first.valueColumns = second.valueColumns
  functionColumns : first.functionColumns = second.functionColumns

/-- The SELECT without its joins. -/
def own (select : Select) : Select :=
  { select with joins := [] }

/-- The SELECT without anything that it returns. -/
def columnless (select : Select) : Select :=
  { select with columns := none, queryColumns := [], valueColumns := [], functionColumns := [] }

/-- The SELECT with all its joins, at every depth, as joins of its own. -/
def hoisted (select : Select) : Select :=
  { select with joins := select.allJoins.map own }

/-- A join with nothing but what it contributes, and its joins. -/
def asJoin (join : Select) : Select :=
  { join with comment := none, count := none, distinct := false, groupBy := [], window := {} }

mutual

/-- The SELECT whose joins, at every depth, hold nothing but what they contribute. -/
def withBareJoins : Select → Select
  | select@{ joins, .. } => { select with joins := bareJoins joins }

def bareJoins : List Select → List Select
  | [] => []
  | join :: rest => join.withBareJoins.asJoin :: bareJoins rest

end

theorem SameJoin.refl (select : Select) : select.SameJoin select where
  table := rfl
  joinType := rfl
  link := rfl
  filter := rfl
  having := rfl
  orderBy := rfl
  columns := rfl
  queryColumns := rfl
  valueColumns := rfl
  functionColumns := rfl

theorem sameJoin_own (select : Select) : select.own.SameJoin select :=
  { SameJoin.refl select with }

theorem withBareJoins_eq (select : Select) :
    select.withBareJoins = { select with joins := bareJoins select.joins } := by
  cases select
  rw [withBareJoins]

theorem sameJoin_asJoin (select : Select) : select.withBareJoins.asJoin.SameJoin select := by
  rw [withBareJoins_eq]
  exact { SameJoin.refl select with }

/-! ### Depth first -/

theorem withAllJoins_map_own (selects : List Select) :
    withAllJoins (selects.map own) = selects.map own := by
  induction selects with
  | nil => rfl
  | cons select rest ih =>
    have none : select.own.allJoins = [] := by
      cases select
      rfl
    rw [List.map_cons, withAllJoins, none, ih, List.nil_append]

theorem allJoins_hoisted (select : Select) : select.hoisted.allJoins = select.allJoins.map own := by
  have joins : select.hoisted.allJoins = withAllJoins (select.allJoins.map own) := by
    cases select
    rfl
  rw [joins, withAllJoins_map_own]

theorem sameJoin_hoisted (select : Select) :
    List.Forall₂ SameJoin select.hoisted.allJoins select.allJoins := by
  rw [allJoins_hoisted, List.forall₂_map_left_iff]
  exact List.forall₂_same.mpr fun join _ => join.sameJoin_own

mutual

/-- Clearing the joins leaves the order of the list as it is. -/
theorem sameJoin_withBareJoins : (select : Select) →
    List.Forall₂ SameJoin select.withBareJoins.allJoins select.allJoins
  | { joins, .. } => by
    simp only [withBareJoins, allJoins]
    exact sameJoin_bareJoins joins

theorem sameJoin_bareJoins : (selects : List Select) →
    List.Forall₂ SameJoin (withAllJoins (bareJoins selects)) (withAllJoins selects)
  | [] => .nil
  | join :: rest => by
    have below : join.withBareJoins.asJoin.allJoins = join.withBareJoins.allJoins := by
      cases join
      rfl
    rw [bareJoins, withAllJoins, withAllJoins, below]
    exact .cons join.sameJoin_asJoin
      (List.rel_append (sameJoin_withBareJoins join) (sameJoin_bareJoins rest))

end

end Select

/-! ### What is contributed -/

/-- The layer without the columns. -/
def Layer.columnless (layer : Layer) : Layer :=
  { layer with columns := none, queryColumns := [], valueColumns := [], functionColumns := [] }

namespace Select

theorem SameSource.layer_columnless {first second : Select} (same : first.SameSource second) :
    first.layer.columnless = second.layer.columnless := by
  simp only [layer_eq, Layer.columnless, same.table, same.joinType, same.link, same.filter,
    same.having, same.orderBy]

theorem SameJoin.ownColumns_eq {first second : Select} (same : first.SameJoin second) :
    first.ownColumns = second.ownColumns := by
  unfold ownColumns isJoin
  rw [same.table, same.columns, same.joinType]

theorem SameJoin.layer_eq {first second : Select} (same : first.SameJoin second) :
    first.layer = second.layer := by
  simp only [Select.layer_eq, same.ownColumns_eq, same.queryColumns, same.valueColumns,
    same.functionColumns, same.table, same.joinType, same.link, same.filter, same.having,
    same.orderBy]

/-- A relation between joins that makes their contributions equal does so along the
list. -/
theorem map_eq_of_forall₂ {Item : Type} {related : Select → Select → Prop}
    {part : Select → Item} (each : ∀ first second, related first second →
      part first = part second)
    {first second : List Select} (all : List.Forall₂ related first second) :
    first.map part = second.map part := by
  induction all with
  | nil => rfl
  | cons head _ ih => rw [List.map_cons, List.map_cons, each _ _ head, ih]

/-- The draft of a SELECT reads its joins off the list. -/
theorem draft_eq_own (select : Select) :
    select.draft =
      Layer.draft select.own select.own.layer (select.allJoins.map layer) := by
  have alone : select.own.layer = select.layer := select.sameJoin_own.layer_eq
  rw [draft, joinedLayers_eq, alone]
  rfl

/-- The join tree matters only through the list of joins. -/
theorem draft_congr {first second : Select} (own : first.own = second.own)
    (joins : List.Forall₂ SameJoin first.allJoins second.allJoins) :
    first.draft = second.draft := by
  have layers := map_eq_of_forall₂ (fun _ _ same => same.layer_eq) joins
  rw [draft_eq_own first, draft_eq_own second, own, layers]

end Select

namespace Layer

/-- A SELECT that counts has no use for the columns of the layers. -/
theorem draft_columnless {select : Select} (counts : select.count.isSome) (own : Layer)
    (joined : List Layer) :
    draft select own joined = draft select.columnless own.columnless (joined.map columnless) := by
  obtain ⟨count, counted⟩ := Option.isSome_iff_exists.mp counts
  have filters : (joined.map columnless).filterMap filter = joined.filterMap filter := by
    simp [List.filterMap_map, Function.comp_def, columnless]
  have havings : (joined.map columnless).filterMap having = joined.filterMap having := by
    simp [List.filterMap_map, Function.comp_def, columnless]
  have orders : (joined.map columnless).flatMap orderBy = joined.flatMap orderBy := by
    simp [List.flatMap_map, columnless]
  have joins : ((joined.map columnless).map fun layer => Draft.ofText " " ++ layer.join) =
      joined.map fun layer => Draft.ofText " " ++ layer.join := by
    simp [columnless]
  unfold draft compose selection
  simp only [List.filterMap_cons, List.flatMap_cons, filters, havings, orders, joins]
  simp only [columnless, Select.columnless, Select.isJoin, counted]
  rfl

end Layer

namespace Select

/-- If the SELECT counts, then neither its columns nor those of the joins matter. -/
theorem draft_congr_of_count {first second : Select} (counts : first.count.isSome)
    (own : first.own.columnless = second.own.columnless)
    (joins : List.Forall₂ SameSource first.allJoins second.allJoins) :
    first.draft = second.draft := by
  have source : first.own.SameSource second.own :=
    { table := congrArg (·.table) own
      joinType := congrArg (·.joinType) own
      link := congrArg (·.link) own
      filter := congrArg (·.filter) own
      having := congrArg (·.having) own
      orderBy := congrArg (·.orderBy) own }
  have sameCount : first.count = second.count := congrArg (·.count) own
  have layers : (first.allJoins.map layer).map Layer.columnless =
      (second.allJoins.map layer).map Layer.columnless := by
    rw [List.map_map, List.map_map]
    exact map_eq_of_forall₂ (fun _ _ same => same.layer_columnless) joins
  have countsToo : second.own.count.isSome := sameCount ▸ counts
  rw [draft_eq_own first, draft_eq_own second, @Layer.draft_columnless first.own counts,
    Layer.draft_columnless countsToo, own, source.layer_columnless, layers]

end Select

namespace Statement

/-- What is compiled is the draft. -/
theorem compile_congr_draft {first second : Select} (dialect : Dialect)
    (same : first.draft = second.draft) :
    (select first).compile dialect = (select second).compile dialect := by
  rw [compile_eq, compile_eq, draft, draft, same]

/-- Compiling a SELECT depends on its own parts and on the depth-first list of its
joins, on what they contribute in the order of the list and on nothing else. -/
theorem compile_congr_allJoins (dialect : Dialect) :
    (∀ first second : Select, first.own = second.own →
      List.Forall₂ Select.SameJoin first.allJoins second.allJoins →
      (select first).compile dialect = (select second).compile dialect) ∧
    (∀ first second : Select, first.count.isSome → first.own.columnless = second.own.columnless →
      List.Forall₂ Select.SameSource first.allJoins second.allJoins →
      (select first).compile dialect = (select second).compile dialect) ∧
    (∀ nested : Select,
      (select nested.hoisted).compile dialect = (select nested).compile dialect) ∧
    (∀ nested : Select,
      (select nested.withBareJoins).compile dialect = (select nested).compile dialect) := by
  refine ⟨?agreeing, ?counting, ?hoisting, ?baring⟩
  case agreeing =>
    intro first second own joins
    exact compile_congr_draft dialect (Select.draft_congr own joins)
  case counting =>
    intro first second counts own joins
    exact compile_congr_draft dialect (Select.draft_congr_of_count counts own joins)
  case hoisting =>
    intro nested
    have own : nested.hoisted.own = nested.own := rfl
    exact compile_congr_draft dialect (Select.draft_congr own nested.sameJoin_hoisted)
  case baring =>
    intro nested
    have own : nested.withBareJoins.own = nested.own := by
      rw [Select.withBareJoins_eq]
      rfl
    exact compile_congr_draft dialect (Select.draft_congr own nested.sameJoin_withBareJoins)

end Statement

namespace Select

/-- A table that is joined on a value and restricted to another one. -/
def joinedSample (name : String) : Select :=
  let table : Table := { name }
  { table := some table
    joinType := some .left
    link :=
      { comparisons :=
          [{ subject := { name := "id", table := some table }
             relation := .greater
             target := .value (.integer 1) }] }
    columns := some [{ name := "id", table := some table }]
    filter := some { literals := [name ++ " IS SMALL"] } }

def joiningSample (joins : List Select) : Select :=
  { table := some { name := "users" }, link := {}, joins }

end Select

namespace Statement

open Select in
/-- The items are a join of the orders in the one and of the users in the other. -/
theorem compile_joiningSample :
    let items := joinedSample "items"
    let orders := joinedSample "orders"
    let nested := joiningSample
      [{ orders with comment := some "hidden", joins := [{ items with distinct := true }] }]
    let flat := joiningSample [orders, { items with window := { count := some 3 } }]
    let count : Count := { column := none, aliasName := some "total" }
    (select nested).compile .mysql = (select flat).compile .mysql ∧
      (select { nested with count }).compile .mysql =
        (select { flat with count, columns := some [{ name := "unread" }] }).compile .mysql := by
  intro items orders nested flat count
  obtain ⟨agreeing, counting, -, -⟩ := compile_congr_allJoins .mysql
  have joins : List.Forall₂ SameJoin nested.allJoins flat.allJoins :=
    .cons { SameJoin.refl orders with }
      (.cons { SameJoin.refl items with } .nil)
  refine ⟨agreeing nested flat rfl joins, counting _ _ rfl rfl ?_⟩
  exact joins.imp fun _ _ same => same.toSameSource

end Statement

end BoundSql
