import BoundSql.Proofs.Failure.Atomicity
import Mathlib.Data.List.Nodup
/-!
# The names of joins

Joins are registered under the names of their tables, but a join that is handed out can be
given another table.
-/

namespace BoundSql

open Editing

namespace Select

def tableName? (select : Select) : Option String :=
  select.table.map Table.name

/-- The names of the tables of a SELECT's own joins. -/
def joinNames (select : Select) : List (Option String) :=
  select.joins.map tableName?

theorem hasTableNamed_iff {name : String} {select : Select} :
    hasTableNamed name select = true ↔ select.tableName? = some name := by
  rw [hasTableNamed, tableName?]
  cases select.table <;> simp

theorem joinNames_of_joinIndex? {select : Select} {name : String} {index : Nat}
    (found : select.joinIndex? name = some index) :
    select.joinNames[index]? = some (some name) := by
  obtain ⟨inside, named, -⟩ := List.findIdx?_eq_some_iff_getElem.mp found
  rw [joinNames, List.getElem?_map, List.getElem?_eq_getElem inside, Option.map_some,
    hasTableNamed_iff.mp named]

theorem notMem_joinNames {select : Select} {name : String}
    (fresh : select.joinIndex? name = none) : some name ∉ select.joinNames := by
  intro mem
  obtain ⟨join, mem, named⟩ := List.mem_map.mp mem
  have unnamed := List.findIdx?_eq_none_iff.mp fresh join mem
  rw [hasTableNamed_iff.mpr named] at unnamed
  cases unnamed

/-- A request for a join of a name leads to the one that is there, and nothing changes, or to
a new one after all others. -/
def Registers (register : Editing Select Nat) (name : String) : Prop :=
  ∀ {select index final}, register.Leads select index final →
    (final = select ∧ select.joinNames[index]? = some (some name)) ∨
    ∃ join : Select, join.tableName? = some name ∧ some name ∉ select.joinNames ∧
      final = { select with joins := select.joins ++ [join] } ∧ index = select.joins.length

theorem pushJoin_registers {select final join : Select} {name : String} {index : Nat}
    (named : join.tableName? = some name) (fresh : select.joinIndex? name = none)
    (leads : (pushJoin join).Leads select index final) :
    ∃ join : Select, join.tableName? = some name ∧ some name ∉ select.joinNames ∧
      final = { select with joins := select.joins ++ [join] } ∧
      index = select.joins.length := by
  obtain ⟨⟨⟩, ⟨⟩⟩ := leads
  exact ⟨join, named, notMem_joinNames fresh, rfl, rfl⟩

theorem tableName?_joinOf (table : Table) (columns : List String) (joinType : JoinType) :
    (joinOf table columns joinType).tableName? = some table.name := by
  rw [joinOf]
  split <;> rfl

theorem join_registers (table : Table) (own referred : Reference) (columns : List String)
    (joinType : JoinType) : Registers (join table own referred columns joinType) table.name := by
  intro select index final leads
  replace leads := leads.of_current
  split at leads
  · next place found =>
    obtain ⟨⟨⟩, ⟨⟩⟩ := leads
    exact .inl ⟨rfl, joinNames_of_joinIndex? found⟩
  · next fresh =>
    rw [openJoin_bind] at leads
    refine .inr (pushJoin_registers ?_ fresh leads)
    exact tableName?_joinOf table columns joinType

theorem crossJoin_registers (table : Table) (columns : List String) :
    Registers (crossJoin table columns) table.name := by
  intro select index final leads
  replace leads := leads.of_current
  split at leads
  · next place found =>
    obtain ⟨⟨⟩, ⟨⟩⟩ := leads
    exact .inl ⟨rfl, joinNames_of_joinIndex? found⟩
  · next fresh =>
    rw [openJoin_bind] at leads
    exact .inr (pushJoin_registers (tableName?_joinOf table columns .cross) fresh leads)

theorem addJoin_registers {child : Select} {name : String}
    (named : child.tableName? = some name) (own referred : Reference) :
    Registers (addJoin child own referred) name := by
  intro select index final leads
  replace leads := leads.of_current
  split at leads
  · next missing =>
    rw [tableName?, missing] at named
    cases named
  · next table given =>
    obtain rfl : table.name = name := by simpa [tableName?, given] using named
    split at leads
    · next place found =>
      obtain ⟨⟨⟩, ⟨⟩⟩ := leads
      exact .inl ⟨rfl, joinNames_of_joinIndex? found⟩
    · next fresh =>
      refine .inr (pushJoin_registers ?_ fresh leads)
      exact named

/-- Without a table a SELECT is not joined. -/
theorem addJoin_fails {child : Select} (unnamed : child.tableName? = none)
    (own referred : Reference) (select : Select) :
    (addJoin child own referred).Fails select (.missingContext .joinedTable) := by
  have missing : child.table = none := Option.map_eq_none_iff.mp unnamed
  refine (bind_of_leads (leads_current select) _).2.trans ?_
  rw [missing]
  rfl

/-- The place that a registered join has can take another name, unless it is that of another
join. -/
theorem Registers.nodup_set {register : Editing Select Nat} {name : String}
    (registers : Registers register name) {select final : Select} {index : Nat}
    (distinct : select.joinNames.Nodup) (leads : register.Leads select index final) :
    final.joinNames[index]? = some (some name) ∧
      ∀ given, given = some name ∨ given ∉ select.joinNames →
        (final.joinNames.set index given).Nodup := by
  rcases registers leads with ⟨rfl, place⟩ | ⟨join, named, fresh, rfl, rfl⟩
  · refine ⟨place, fun given apart => ?_⟩
    rcases apart with rfl | apart
    · obtain ⟨inside, same⟩ := List.getElem?_eq_some_iff.mp place
      rw [← same, List.set_getElem_self]
      exact distinct
    · exact distinct.set apart
  · rw [joinNames, List.map_append, List.map_singleton, named, ← joinNames,
      ← List.length_map tableName?, ← joinNames]
    refine ⟨by simp, fun given apart => ?_⟩
    have absent : given ∉ select.joinNames := by
      rcases apart with rfl | apart
      · exact fresh
      · exact apart
    rw [List.set_append_right _ _ (Nat.le_refl _), Nat.sub_self, List.set_cons_zero]
    exact distinct.append (List.nodup_singleton given) (by simpa using absent)

/-- Edits of a join leave the table of the SELECT. -/
theorem Registers.table_within {register : Editing Select Nat} {name : String}
    (registers : Registers register name) (atomic : register.IsAtomic)
    (editing : Editing Select (List Reply)) (select : Select) :
    ((do
      let index ← register
      let replies ← withinJoin index editing
      return Reply.within replies : Editing Select Reply) select).state.table =
        select.table := by
  rcases register.leads_or_fails select with ⟨index, final, leads⟩ | ⟨error, fails⟩
  · rw [(bind_of_leads leads _).1, state_bind_pure]
    rcases registers leads with ⟨rfl, -⟩ | ⟨join, -, -, rfl, -⟩
    · rfl
    · rfl
  · rw [(bind_of_fails fails _).1, atomic select error fails]

/-- Edits of a join leave the names distinct if they give it no name of another join. -/
theorem Registers.nodup_within {register : Editing Select Nat} {name : String}
    (registers : Registers register name) (atomic : register.IsAtomic)
    {editing : Editing Select (List Reply)} {select : Select}
    (distinct : select.joinNames.Nodup)
    (keeps : editing.Keeps fun join =>
      join.tableName? = some name ∨ join.tableName? ∉ select.joinNames) :
    ((do
      let index ← register
      let replies ← withinJoin index editing
      return Reply.within replies : Editing Select Reply) select).state.joinNames.Nodup := by
  rcases register.leads_or_fails select with ⟨index, final, leads⟩ | ⟨error, fails⟩
  · obtain ⟨place, apart⟩ := registers.nodup_set distinct leads
    rw [(bind_of_leads leads _).1, state_bind_pure]
    show (List.map tableName? (final.joins.set index _)).Nodup
    rw [List.map_set]
    refine apart _ (keeps _ (.inl ?_))
    rw [joinNames, List.getElem?_map, Option.map_eq_some_iff] at place
    obtain ⟨join, found, named⟩ := place
    show (final.joins.getD index unbound).tableName? = some name
    rw [List.getD_eq_getElem?_getD, found]
    exact named
  · rw [(bind_of_fails fails _).1, atomic select error fails]
    exact distinct

end Select

end BoundSql
