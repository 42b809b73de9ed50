import BoundSql.Proofs.Flattening
/-!
# Depth first, once each

The joins of a SELECT form a tree.  A join in it has a place: the numbers of the joins
to go to, one step after the other.  In the order of the dictionary a place comes before
those that go on from it, and before those that turn to a later join.  This is the order
of the depth-first list, in which each place occurs once.
-/

namespace BoundSql.Select

/-- The SELECT at a place among the joins, where each step goes to a join by its number. -/
def joinAt? : Select → List Nat → Option Select
  | select, [] => some select
  | select, index :: place => select.joins[index]?.bind (joinAt? · place)

mutual

/-- The joins of the depth-first list with their places. -/
def placedJoins : Select → List (List Nat × Select)
  | { joins, .. } => placedFrom 0 joins

/-- Joins with their places, where `index` is the number of the first. -/
def placedFrom (index : Nat) : List Select → List (List Nat × Select)
  | [] => []
  | join :: rest =>
    ([index], join) :: (join.placedJoins.map fun (place, below) => (index :: place, below)) ++
      placedFrom (index + 1) rest

end

mutual

theorem map_snd_placedJoins : (select : Select) →
    select.placedJoins.map Prod.snd = select.allJoins
  | { joins, .. } => by rw [placedJoins, allJoins, map_snd_placedFrom 0 joins]

theorem map_snd_placedFrom (index : Nat) : (selects : List Select) →
    (placedFrom index selects).map Prod.snd = withAllJoins selects
  | [] => rfl
  | join :: rest => by
    simp [placedFrom, withAllJoins, Function.comp_def, map_snd_placedJoins join,
      map_snd_placedFrom (index + 1) rest]

end

/-! ### The joins at their places -/

mutual

theorem mem_placedJoins {place : List Nat} {join : Select} : (select : Select) →
    ((place, join) ∈ select.placedJoins ↔ place ≠ [] ∧ select.joinAt? place = some join)
  | { joins, .. } => by
    rw [placedJoins, mem_placedFrom joins]
    cases place with
    | nil => simp
    | cons index place => simp [joinAt?, Option.bind_eq_some_iff, and_assoc]

theorem mem_placedFrom {first : Nat} {place : List Nat} {join : Select} :
    (selects : List Select) →
    ((place, join) ∈ placedFrom first selects ↔
      ∃ index rest, place = (first + index) :: rest ∧
        ∃ one, selects[index]? = some one ∧ one.joinAt? rest = some join)
  | [] => by simp [placedFrom]
  | head :: others => by
    -- The joins at the places that start with a join are the join itself and those below it.
    have below : ∀ rest, head.joinAt? rest = some join ↔
        rest = [] ∧ head = join ∨ (rest, join) ∈ head.placedJoins := by
      intro rest
      rw [mem_placedJoins head]
      cases rest <;> simp [joinAt?]
    simp only [placedFrom, List.cons_append, List.mem_cons, List.mem_append, List.mem_map,
      mem_placedFrom others, Prod.exists, Prod.mk.injEq]
    constructor
    · rintro (⟨rfl, rfl⟩ | ⟨rest, _, member, rfl, rfl⟩ | ⟨index, rest, rfl, found⟩)
      · exact ⟨0, [], rfl, join, rfl, rfl⟩
      · exact ⟨0, rest, rfl, head, rfl, (below rest).mpr (.inr member)⟩
      · exact ⟨index + 1, rest, by rw [Nat.add_right_comm, Nat.add_assoc], found⟩
    · rintro ⟨_ | index, rest, rfl, one, found, reached⟩
      · obtain rfl : head = one := Option.some.inj found
        rcases (below rest).mp reached with ⟨rfl, rfl⟩ | member
        · exact .inl ⟨rfl, rfl⟩
        · exact .inr (.inl ⟨rest, join, member, rfl, rfl⟩)
      · refine .inr (.inr ⟨index, rest, ?_, one, found, reached⟩)
        rw [Nat.add_right_comm, Nat.add_assoc]

end

mutual

/-- Places are listed in the order of the dictionary, none of them twice. -/
theorem pairwise_placedJoins : (select : Select) →
    select.placedJoins.Pairwise fun first second => first.1 < second.1
  | { joins, .. } => by
    rw [placedJoins]
    exact pairwise_placedFrom 0 joins

theorem pairwise_placedFrom (index : Nat) : (selects : List Select) →
    (placedFrom index selects).Pairwise fun first second => first.1 < second.1
  | [] => .nil
  | join :: rest => by
    have later : ∀ placed ∈ placedFrom (index + 1) rest, ∀ place,
        index :: place < placed.1 := by
      rintro ⟨_, _⟩ member place
      obtain ⟨further, _, rfl, -⟩ := (mem_placedFrom rest).mp member
      exact List.cons_lt_cons_iff.mpr (.inl (by omega))
    have below : ∀ placed ∈ join.placedJoins, [index] < index :: placed.1 := by
      rintro ⟨_ | ⟨step, place⟩, _⟩ member
      · exact absurd rfl ((mem_placedJoins join).mp member).1
      · exact List.cons_lt_cons_iff.mpr (.inr ⟨rfl, List.nil_lt_cons step place⟩)
    rw [placedFrom, List.cons_append, List.pairwise_cons, List.pairwise_append,
      List.pairwise_map]
    simp only [List.mem_append, List.mem_map]
    refine ⟨?own, ?nested, pairwise_placedFrom (index + 1) rest, ?between⟩
    case own =>
      rintro _ (⟨placed, member, rfl⟩ | member)
      · exact below placed member
      · exact later _ member []
    case nested =>
      refine (pairwise_placedJoins join).imp fun ordered => ?_
      exact List.cons_lt_cons_iff.mpr (.inr ⟨rfl, ordered⟩)
    case between =>
      rintro _ ⟨placed, -, rfl⟩ other member
      exact later other member placed.1

end

/-! ### The accessors -/

/-- The columns of a SELECT are enumerated unless a SELECT of the list has no table. -/
theorem allColumns_eq_ok_iff (select : Select) (columns : List Column) :
    select.allColumns = .ok columns ↔
      ∃ owned : List (List Column), select.flattened.map ownColumns = owned.map .ok ∧
        columns = owned.flatten := by
  rw [allColumns_eq]
  simp only [← mapM_ownColumns_eq_ok_iff]
  cases select.flattened.mapM ownColumns <;>
    simp [bind, Except.bind, pure, Except.pure, eq_comm]

theorem allColumns_eq_error_iff (select : Select) (error : Error) :
    select.allColumns = .error error ↔
      error = .missingContext .enumeratedTable ∧ ∃ one ∈ select.flattened, one.table = none := by
  have enumerated := not_congr (mapM_ownColumns_eq_ok select.flattened)
  rw [allColumns_eq]
  cases outcome : select.flattened.mapM ownColumns with
  | error lacking =>
    have missing : ∃ one ∈ select.flattened, one.table = none := by
      simpa [outcome] using enumerated
    rw [error_of_mapM_ownColumns outcome]
    simp [bind, Except.bind, missing, eq_comm]
  | ok columns =>
    have present : ¬ ∃ one ∈ select.flattened, one.table = none := by
      simpa [outcome] using enumerated
    simp [bind, Except.bind, pure, Except.pure, present]

/-- All accessors that flatten follow one traversal of the joins.  The depth-first list
holds the join at each place once, in the order of the places, which is that of the
declarations with each join before its own joins.  What the SELECT and its joins hold
together is what each SELECT of the list holds, the SELECT itself first.  The columns
cannot be enumerated exactly if a SELECT of the list has no table. -/
theorem accessors_follow_allJoins (select : Select) :
    (∃ placed : List (List Nat × Select), placed.map Prod.snd = select.allJoins ∧
      (placed.Pairwise fun first second => first.1 < second.1) ∧
      ∀ place join, (place, join) ∈ placed ↔
        place ≠ [] ∧ select.joinAt? place = some join) ∧
    select.allQueryColumns = (select :: select.allJoins).flatMap Select.queryColumns ∧
    select.allValueColumns = (select :: select.allJoins).flatMap Select.valueColumns ∧
    select.allFunctionColumns = (select :: select.allJoins).flatMap Select.functionColumns ∧
    select.allFilters = (select :: select.allJoins).flatMap (·.filter.toList) ∧
    select.allHavings = (select :: select.allJoins).flatMap (·.having.toList) ∧
    select.allOrderBy = (select :: select.allJoins).flatMap Select.orderBy ∧
    (∀ columns, select.allColumns = .ok columns ↔
      ∃ owned : List (List Column),
        (select :: select.allJoins).map ownColumns = owned.map .ok ∧
          columns = owned.flatten) ∧
    ∀ error, select.allColumns = .error error ↔
      error = .missingContext .enumeratedTable ∧
        ∃ one ∈ select :: select.allJoins, one.table = none := by
  refine ⟨⟨select.placedJoins, map_snd_placedJoins select, pairwise_placedJoins select,
    fun _ _ => mem_placedJoins select⟩, ?_⟩
  exact ⟨gather_eq _ select, gather_eq _ select, gather_eq _ select, gather_eq _ select,
    gather_eq _ select, gather_eq _ select, allColumns_eq_ok_iff select,
    allColumns_eq_error_iff select⟩

end BoundSql.Select
