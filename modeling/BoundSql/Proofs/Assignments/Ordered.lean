import BoundSql.Statement.Assignment
import Mathlib.Data.List.Induction
import Mathlib.Data.List.Nodup
/-!
# Assignments are an ordered map

A column stands where its name was first assigned, as the column that was then meant, and
has the value that was last assigned to its name.
-/

namespace BoundSql.Assignment

/-- Assigns one after the other. -/
def assignAll (given stored : List Assignment) : List Assignment :=
  given.foldl (fun stored one => assign one.column one.value stored) stored

theorem assignAll_append (first second stored : List Assignment) :
    assignAll (first ++ second) stored = assignAll second (assignAll first stored) :=
  List.foldl_append

/-- The stored assignments are the ordered map of a history of assignments. -/
structure IsMapOf (history stored : List Assignment) : Prop where
  distinct : (stored.map (·.column.name)).Nodup
  /-- The names, each where it came first. -/
  names : stored.map (·.column.name) = (history.map (·.column.name)).eraseDups
  /-- A column is that of the first assignment to its name. -/
  first : ∀ kept ∈ stored,
    (history.filter (·.column.name = kept.column.name)).head?.map column = some kept.column
  /-- A value is that of the last assignment to the name. -/
  last : ∀ kept ∈ stored,
    (history.filter (·.column.name = kept.column.name)).getLast?.map value = some kept.value

/-- What is stored after an assignment: assignments to other names, and one to the name. -/
theorem of_mem_assign {column : Column} {value : Value} {stored : List Assignment}
    {kept : Assignment} (distinct : (stored.map (·.column.name)).Nodup)
    (mem : kept ∈ assign column value stored) :
    (kept ∈ stored ∧ kept.column.name ≠ column.name) ∨
      kept.column.name = column.name ∧ kept.value = value ∧
        ((∃ former ∈ stored, former.column = kept.column) ∨
          column.name ∉ stored.map (·.column.name) ∧ kept.column = column) := by
  induction stored with
  | nil =>
    obtain rfl := List.mem_singleton.mp mem
    exact .inr ⟨rfl, rfl, .inr ⟨List.not_mem_nil, rfl⟩⟩
  | cons head rest ih =>
    rw [List.map_cons, List.nodup_cons] at distinct
    rw [assign] at mem
    split at mem
    · next same =>
      rcases List.mem_cons.mp mem with rfl | other
      · exact .inr ⟨same, rfl, .inl ⟨head, List.mem_cons_self, rfl⟩⟩
      · refine .inl ⟨List.mem_cons_of_mem _ other, fun again => distinct.1 ?_⟩
        exact List.mem_map.mpr ⟨kept, other, again.trans same.symm⟩
    · next apart =>
      rcases List.mem_cons.mp mem with rfl | later
      · exact .inl ⟨List.mem_cons_self, apart⟩
      · rcases ih distinct.2 later with ⟨mem, other⟩ | ⟨named, valued, before⟩
        · exact .inl ⟨List.mem_cons_of_mem _ mem, other⟩
        · refine .inr ⟨named, valued, before.imp ?_ ?_⟩
          · rintro ⟨former, mem, same⟩
            exact ⟨former, List.mem_cons_of_mem _ mem, same⟩
          · rintro ⟨fresh, same⟩
            refine ⟨?_, same⟩
            rw [List.map_cons, List.mem_cons, not_or]
            exact ⟨Ne.symm apart, fresh⟩

/-- A new name is added at the end. -/
theorem assign_of_notMem {column : Column} {value : Value} {stored : List Assignment}
    (fresh : column.name ∉ stored.map (·.column.name)) :
    assign column value stored = stored ++ [⟨column, value⟩] := by
  induction stored with
  | nil => rfl
  | cons head rest ih =>
    rw [List.map_cons, List.mem_cons, not_or] at fresh
    rw [assign, if_neg (Ne.symm fresh.1), ih fresh.2, List.cons_append]

namespace IsMapOf

theorem mem_names {history stored : List Assignment} (map : IsMapOf history stored)
    {name : String} :
    name ∈ stored.map (·.column.name) ↔ name ∈ history.map (·.column.name) := by
  rw [map.names, List.mem_eraseDups]

theorem filter_eq_nil {history stored : List Assignment} (map : IsMapOf history stored)
    {name : String} (fresh : name ∉ stored.map (·.column.name)) :
    history.filter (·.column.name = name) = [] := by
  rw [map.mem_names] at fresh
  rw [List.filter_eq_nil_iff]
  intro one mem named
  exact fresh (List.mem_map.mpr ⟨one, mem, by simpa using named⟩)

/-- One more assignment. -/
theorem assign {history stored : List Assignment} (map : IsMapOf history stored)
    (one : Assignment) :
    IsMapOf (history ++ [one]) (Assignment.assign one.column one.value stored) := by
  have names := names_assign one.column one.value stored
  have others : ∀ {kept : Assignment}, kept.column.name ≠ one.column.name →
      (history ++ [one]).filter (·.column.name = kept.column.name) =
        history.filter (·.column.name = kept.column.name) := by
    intro kept apart
    simp [List.filter_append, Ne.symm apart]
  have own : ∀ {kept : Assignment}, kept.column.name = one.column.name →
      (history ++ [one]).filter (·.column.name = kept.column.name) =
        history.filter (·.column.name = kept.column.name) ++ [one] := by
    intro kept same
    simp [List.filter_append, same]
  constructor
  case distinct =>
    rw [names]
    split
    · simpa using map.distinct
    · next fresh =>
      exact map.distinct.append (List.nodup_singleton _) (by simpa using fresh)
  case names =>
    rw [names, List.map_append, List.eraseDups_append, ← map.names]
    congr 1
    by_cases known : one.column.name ∈ history.map (·.column.name)
    · rw [if_pos (map.mem_names.mpr known), List.map_singleton, List.removeAll,
        List.filter_cons_of_neg (by simpa using known)]
      rfl
    · rw [if_neg (mt map.mem_names.mp known), List.map_singleton, List.removeAll,
        List.filter_cons_of_pos (by simpa using known)]
      rfl
  case first =>
    intro kept mem
    rcases of_mem_assign map.distinct mem with ⟨mem, apart⟩ | ⟨same, -, former | fresh⟩
    · rw [others apart]
      exact map.first kept mem
    · obtain ⟨former, mem, column⟩ := former
      have first := map.first former mem
      rw [column] at first
      obtain ⟨head, found, given⟩ := Option.map_eq_some_iff.mp first
      rw [own same, List.head?_append, found]
      exact congrArg some given
    · rw [own same, same, map.filter_eq_nil fresh.1, fresh.2]
      rfl
  case last =>
    intro kept mem
    rcases of_mem_assign map.distinct mem with ⟨mem, apart⟩ | ⟨same, value, -⟩
    · rw [others apart]
      exact map.last kept mem
    · rw [own same, List.getLast?_concat, value]
      rfl

theorem assignAll {history stored : List Assignment} (map : IsMapOf history stored)
    (given : List Assignment) : IsMapOf (history ++ given) (assignAll given stored) := by
  induction given generalizing history stored with
  | nil =>
    rw [List.append_nil]
    exact map
  | cons one rest ih =>
    rw [List.append_cons]
    exact ih (map.assign one)

theorem ne_nil {history stored : List Assignment} (map : IsMapOf history stored)
    (assigned : history ≠ []) : stored ≠ [] := by
  rintro rfl
  obtain ⟨one, mem⟩ := List.exists_mem_of_ne_nil history assigned
  exact List.not_mem_nil (map.mem_names.mpr (List.mem_map_of_mem mem))

/-- Assignments to distinct names are stored as they are. -/
theorem of_nodup {stored : List Assignment}
    (distinct : (stored.map (·.column.name)).Nodup) : IsMapOf stored stored := by
  induction stored using List.reverseRecOn with
  | nil => exact ⟨distinct, rfl, by simp, by simp⟩
  | append_singleton earlier one ih =>
    rw [List.map_append, List.nodup_append] at distinct
    have fresh : one.column.name ∉ earlier.map (·.column.name) := fun mem =>
      distinct.2.2 _ mem _ (List.mem_singleton.mpr rfl) rfl
    have stays := (ih distinct.1).assign one
    rwa [assign_of_notMem fresh] at stays

end IsMapOf

end BoundSql.Assignment
