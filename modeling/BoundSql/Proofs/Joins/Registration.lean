import BoundSql.Proofs.Context.Coherence
import BoundSql.Proofs.Joins.Basic
import Mathlib.Data.List.Induction
/-!
# The first join of a name stays

A request for a join leads to the first join of the name if there is one, and otherwise to a
new join after all others.  What the new join is depends on the request and on the table of
the SELECT, and nothing else of the SELECT is changed.
-/

namespace BoundSql

open Editing

/-- A request for a join. -/
inductive JoinRequest where
  | join (table : Table) (own referred : Reference) (columns : List String)
      (joinType : JoinType)
  | cross (table : Table) (columns : List String)
  | add (child : Select) (own referred : Reference)

namespace JoinRequest

def register : JoinRequest → Editing Select Nat
  | .join table own referred columns joinType => Select.join table own referred columns joinType
  | .cross table columns => Select.crossJoin table columns
  | .add child own referred => Select.addJoin child own referred

/-- The name under which the join is registered.  A SELECT without a table has none. -/
def name? : JoinRequest → Option String
  | .join table .. => some table.name
  | .cross table _ => some table.name
  | .add child .. => child.tableName?

/-! ### What is registered -/

/-- A new join of a table, of a type and with columns of the table. -/
def ofColumns (table : Table) (columns : List String) (joinType : JoinType) : Select :=
  { Select.ofTable table with
    joinType := some joinType
    columns :=
      if columns.isEmpty then none
      else some (columns.map fun name => { name, table := some table }) }

/-- The join before it is linked to the SELECT. -/
def unlinked : JoinRequest → Select
  | .join table _ _ columns joinType => ofColumns table columns joinType
  | .cross table columns => ofColumns table columns .cross
  | .add child _ _ => { child with joinType := some (child.joinType.getD .plain) }

/-- The equality on which the SELECT is joined, where `context` is its table.  A bare name on
the left belongs to the table of the join. -/
def equalities (context : Option Table) : JoinRequest → List ComparisonClause
  | .join table own referred _ _ =>
    [{ subject := referred.resolve (some table)
       relation := .equals
       target := .column (own.resolve context) }]
  | .cross .. => []
  | .add child own referred =>
    [{ subject := referred.resolve child.table
       relation := .equals
       target := .column (own.resolve context) }]

/-- The join that is registered. -/
def joined (context : Option Table) (request : JoinRequest) : Select :=
  { request.unlinked with
    link :=
      { request.unlinked.link with
        comparisons := request.unlinked.link.comparisons ++ request.equalities context } }

/-- A SELECT that is to be joined has been built, and no condition of it has been put in place
of another. -/
def IsBuilt : JoinRequest → Prop
  | .add child _ _ =>
    ∃ argument : SelectArgument, argument.replacesNothing ∧ argument.select.result = .ok child
  | .join .. | .cross .. => True

theorem tableName?_joined (context : Option Table) (request : JoinRequest) :
    (request.joined context).tableName? = request.name? := by
  cases request <;> rfl

theorem joinOf_eq (table : Table) (columns : List String) (joinType : JoinType) :
    Select.joinOf table columns joinType = ofColumns table columns joinType := by
  unfold Select.joinOf ofColumns
  split <;> simp_all [Select.setColumns, Shorthand.column, Shorthand.alias?, Select.ofTable]

/-! ### One request -/

theorem pushJoin_leads (join select : Select) :
    (Select.pushJoin join).Leads select select.joins.length
      { select with joins := select.joins ++ [join] } :=
  ⟨rfl, rfl⟩

theorem register_of_found {request : JoinRequest} {name : String}
    (named : request.name? = some name) {select : Select} {index : Nat}
    (found : select.joinIndex? name = some index) :
    request.register.Leads select index select := by
  cases request with
  | join | cross =>
    obtain rfl := Option.some.inj named
    refine (leads_current select).bind ?_
    rw [found]
    exact ⟨rfl, rfl⟩
  | add child own referred =>
    obtain ⟨table, given, rfl⟩ := Option.map_eq_some_iff.mp named
    refine (leads_current select).bind ?_
    rw [given]
    simp only [found]
    exact ⟨rfl, rfl⟩

theorem register_of_fresh {request : JoinRequest} {name : String}
    (named : request.name? = some name) (built : request.IsBuilt) {select : Select}
    (fresh : select.joinIndex? name = none) :
    request.register.Leads select select.joins.length
      { select with joins := select.joins ++ [request.joined select.table] } := by
  cases request with
  | join | cross =>
    obtain rfl := Option.some.inj named
    refine (leads_current select).bind ?_
    simp only [fresh, Select.openJoin_bind, joinOf_eq]
    exact pushJoin_leads _ select
  | add child own referred =>
    obtain ⟨table, given, rfl⟩ := Option.map_eq_some_iff.mp named
    obtain ⟨argument, replaces, result⟩ := built
    have subject : child.link.resolve referred = referred.resolve child.table := by
      have coherent := argument.select_isCoherent replaces result
      rw [Condition.resolve, (Select.isCoherent_iff.mp coherent).1.table_eq]
    have linked : Select.linkTo { child with joinType := some (child.joinType.getD .plain) }
        referred (select.resolve own) = (add child own referred).joined select.table := by
      unfold Select.linkTo Condition.compare
      rw [show Condition.resolve child.link referred = _ from subject]
      rfl
    refine (leads_current select).bind ?_
    split
    · next missing => cases given.symm.trans missing
    · next other same =>
      obtain rfl := Option.some.inj (given.symm.trans same)
      rw [fresh, ← linked]
      exact pushJoin_leads _ select

theorem register_of_unnamed {request : JoinRequest} (unnamed : request.name? = none)
    (select : Select) :
    request.register.Fails select (.missingContext .joinedTable) ∧
      (request.register select).state = select := by
  cases request with
  | join | cross => cases unnamed
  | add child own referred =>
    have fails := Select.addJoin_fails unnamed own referred select
    exact ⟨fails, Select.addJoin_isAtomic child own referred select _ fails⟩

/-- Whether a name is registered. -/
theorem joinIndex?_eq_none {select : Select} {name : String}
    (fresh : some name ∉ select.joinNames) : select.joinIndex? name = none := by
  cases found : select.joinIndex? name with
  | none => rfl
  | some index =>
    exact absurd (List.mem_of_getElem? (Select.joinNames_of_joinIndex? found)) fresh

theorem exists_joinIndex? {select : Select} {name : String}
    (known : some name ∈ select.joinNames) :
    ∃ index, select.joinIndex? name = some index := by
  cases found : select.joinIndex? name with
  | none => exact absurd known (Select.notMem_joinNames found)
  | some index => exact ⟨index, rfl⟩

/-- The join of a name is the first of that name. -/
theorem first_of_joinIndex? {select : Select} {name : String} {index : Nat}
    (found : select.joinIndex? name = some index) :
    ∃ join, select.joins[index]? = some join ∧ join.tableName? = some name ∧
      ∀ earlier < index, select.joinNames[earlier]? ≠ some (some name) := by
  obtain ⟨inside, named, before⟩ := List.findIdx?_eq_some_iff_getElem.mp found
  refine ⟨select.joins[index], List.getElem?_eq_getElem inside,
    Select.hasTableNamed_iff.mp named, fun earlier less same => ?_⟩
  have place := before earlier less
  rw [Select.joinNames, List.getElem?_map, List.getElem?_eq_getElem (by omega),
    Option.map_some, Option.some_inj, ← Select.hasTableNamed_iff] at same
  exact place same

/-! ### Requests one after the other -/

/-- The SELECT after requests, of which those that fail change nothing. -/
def registerAll (requests : List JoinRequest) (select : Select) : Select :=
  requests.foldl (fun select request => (request.register select).state) select

/-- The names that are asked for. -/
def names (requests : List JoinRequest) : List (Option String) :=
  (requests.map name?).filter Option.isSome

/-- Names that are not known yet, each where it is first asked for. -/
def newNames (known asked : List (Option String)) : List (Option String) :=
  (asked.removeAll known).eraseDups

theorem mem_newNames {known asked : List (Option String)} {name : Option String} :
    name ∈ newNames known asked ↔ name ∈ asked ∧ name ∉ known := by
  simp [newNames, List.mem_eraseDups, List.removeAll]

theorem removeAll_singleton (name : Option String) (known : List (Option String)) :
    [name].removeAll known = if name ∈ known then [] else [name] := by
  by_cases old : name ∈ known <;> simp [List.removeAll, old]

theorem newNames_concat (known asked : List (Option String)) (name : Option String) :
    newNames known (asked ++ [name]) = newNames known asked ++
      if name ∈ known ++ newNames known asked then [] else [name] := by
  have split : (asked ++ [name]).removeAll known =
      asked.removeAll known ++ [name].removeAll known := List.filter_append ..
  rw [newNames, split, List.eraseDups_append, ← newNames, removeAll_singleton]
  congr 1
  by_cases old : name ∈ known
  · rw [if_pos old, if_pos (List.mem_append_left _ old)]
    rfl
  · have seen : name ∈ known ++ newNames known asked ↔ name ∈ asked.removeAll known := by
      rw [List.mem_append, newNames, List.mem_eraseDups, or_iff_right old]
    rw [if_neg old, removeAll_singleton]
    simp only [seen]
    split <;> rfl

/-- The requests that are the first of their names, which are not known. -/
structure AreFirsts (known : List (Option String)) (requests firsts : List JoinRequest) :
    Prop where
  sublist : firsts.Sublist requests
  names : firsts.map name? = newNames known (names requests)
  found : ∀ request ∈ firsts, requests.find? (·.name? = request.name?) = some request

namespace AreFirsts

variable {known : List (Option String)} {earlier firsts : List JoinRequest}
  {request : JoinRequest}

theorem found_concat (are : AreFirsts known earlier firsts) :
    ∀ one ∈ firsts, (earlier ++ [request]).find? (·.name? = one.name?) = some one := by
  intro one mem
  rw [List.find?_append, are.found one mem]
  rfl

/-- A request without a name. -/
theorem unnamed (are : AreFirsts known earlier firsts) (none : request.name? = none) :
    AreFirsts known (earlier ++ [request]) firsts where
  sublist := are.sublist.trans (List.sublist_append_left ..)
  names := by
    rw [are.names, JoinRequest.names, JoinRequest.names, List.map_append, List.filter_append,
      List.map_singleton, none]
    simp
  found := are.found_concat

theorem names_concat {name : String} (named : request.name? = some name) :
    JoinRequest.names (earlier ++ [request]) = JoinRequest.names earlier ++ [some name] := by
  rw [JoinRequest.names, List.map_append, List.filter_append, List.map_singleton, named]
  rfl

/-- A request of a name that is known or was asked for before. -/
theorem ignored (are : AreFirsts known earlier firsts) {name : String}
    (named : request.name? = some name) (old : some name ∈ known ++ firsts.map name?) :
    AreFirsts known (earlier ++ [request]) firsts where
  sublist := are.sublist.trans (List.sublist_append_left ..)
  names := by
    rw [names_concat named, newNames_concat, ← are.names, if_pos old, List.append_nil]
  found := are.found_concat

/-- A request of a new name. -/
theorem concat (are : AreFirsts known earlier firsts) {name : String}
    (named : request.name? = some name) (new : some name ∉ known ++ firsts.map name?) :
    AreFirsts known (earlier ++ [request]) (firsts ++ [request]) where
  sublist := are.sublist.append (List.Sublist.refl _)
  names := by
    rw [names_concat named, newNames_concat, ← are.names, if_neg new, List.map_append,
      List.map_singleton, named]
  found := by
    rw [List.forall_mem_append, List.forall_mem_singleton]
    refine ⟨are.found_concat, ?_⟩
    have unasked : earlier.find? (·.name? = request.name?) = none := by
      rw [List.find?_eq_none]
      intro one mem same
      have asked : some name ∈ JoinRequest.names earlier := by
        refine List.mem_filter.mpr ⟨List.mem_map.mpr ⟨one, mem, ?_⟩, rfl⟩
        rw [← named]
        simpa using same
      rw [List.mem_append, not_or, are.names, mem_newNames] at new
      exact new.2 ⟨asked, new.1⟩
    rw [List.find?_append, unasked]
    simp

end AreFirsts

theorem joinNames_append (select : Select) (firsts : List JoinRequest) :
    Select.joinNames
        { select with joins := select.joins ++ firsts.map (joined select.table) } =
      select.joinNames ++ firsts.map name? := by
  rw [Select.joinNames, List.map_append, List.map_map]
  congr 1
  exact List.map_congr_left fun request _ => tableName?_joined _ request

/-- The requests whose joins are registered are the first of their names. -/
theorem exists_firsts (select : Select) {requests : List JoinRequest}
    (built : ∀ request ∈ requests, request.IsBuilt) :
    ∃ firsts, AreFirsts select.joinNames requests firsts ∧
      registerAll requests select =
        { select with joins := select.joins ++ firsts.map (joined select.table) } := by
  induction requests using List.reverseRecOn with
  | nil =>
    refine ⟨[], ⟨.slnil, rfl, by simp⟩, ?_⟩
    rw [List.map_nil, List.append_nil]
    cases select
    rfl
  | append_singleton earlier request ih =>
    rw [List.forall_mem_append, List.forall_mem_singleton] at built
    obtain ⟨firsts, are, after⟩ := ih built.1
    have step : registerAll (earlier ++ [request]) select =
        (request.register (registerAll earlier select)).state := by
      rw [registerAll, List.foldl_concat]
      rfl
    have joinNames : (registerAll earlier select).joinNames =
        select.joinNames ++ firsts.map name? := by
      rw [after, joinNames_append]
    cases given : request.name? with
    | none =>
      refine ⟨firsts, are.unnamed given, ?_⟩
      rw [step, (register_of_unnamed given _).2, after]
    | some name =>
      by_cases old : some name ∈ select.joinNames ++ firsts.map name?
      · refine ⟨firsts, are.ignored given old, ?_⟩
        obtain ⟨index, found⟩ := exists_joinIndex? (joinNames ▸ old)
        rw [step, (register_of_found given found).state, after]
      · refine ⟨firsts ++ [request], are.concat given old, ?_⟩
        have fresh := joinIndex?_eq_none (joinNames ▸ old)
        rw [step, (register_of_fresh given built.2 fresh).state, after]
        simp [List.append_assoc]

/-- The first join of a name stays.  In every state, a request for a name that is registered
leads to its first join and changes nothing; a SELECT without a table is refused and nothing
is changed; and every other request adds one join after all others and changes nothing else.
After requests one after the other the SELECT has the joins that it had, and after them those
of the first requests of each new name, in the order of these requests. -/
theorem first_join_stays (select : Select) (requests : List JoinRequest)
    (built : ∀ request ∈ requests, request.IsBuilt) :
    (∀ request ∈ requests, ∀ before : Select,
      (∀ name, request.name? = some name → some name ∈ before.joinNames →
        ∃ index join, request.register.Leads before index before ∧
          before.joins[index]? = some join ∧ join.tableName? = some name ∧
          ∀ earlier < index, before.joinNames[earlier]? ≠ some (some name)) ∧
      (request.name? = none →
        request.register.Fails before (.missingContext .joinedTable) ∧
          (request.register before).state = before) ∧
      ∀ name, request.name? = some name → some name ∉ before.joinNames →
        request.register.Leads before before.joins.length
          { before with joins := before.joins ++ [request.joined before.table] }) ∧
    ∃ firsts, AreFirsts select.joinNames requests firsts ∧
      registerAll requests select =
        { select with joins := select.joins ++ firsts.map (joined select.table) } ∧
      (registerAll requests select).joinNames =
        select.joinNames ++ newNames select.joinNames (names requests) := by
  constructor
  · intro request mem before
    refine ⟨fun name named known => ?_, fun unnamed => register_of_unnamed unnamed before,
      fun name named new =>
        register_of_fresh named (built request mem) (joinIndex?_eq_none new)⟩
    obtain ⟨index, found⟩ := exists_joinIndex? known
    obtain ⟨join, place, first⟩ := first_of_joinIndex? found
    exact ⟨index, join, register_of_found named found, place, first⟩
  · obtain ⟨firsts, are, after⟩ := exists_firsts select built
    refine ⟨firsts, are, after, ?_⟩
    rw [after, joinNames_append, are.names]

/-- A name that is asked for twice, a SELECT without a table, and one that has a condition of
its own before it is joined. -/
theorem first_join_stays_of_user :
    let page := Select.ofTable { name := "page" }
    let joined := { page with link := page.link.addLiteral "1 < 2" }
    let requests : List JoinRequest :=
      [.join { name := "news" } (.bare "id") (.bare "author") ["title"] .left,
        .cross { name := "news" } [], .cross { name := "book" } [],
        .add .unbound (.bare "id") (.bare "user"), .add joined (.bare "id") (.bare "user")]
    (registerAll requests (.ofTable { name := "user" })).joinNames =
        [some "news", some "book", some "page"] ∧
      (registerAll requests (.ofTable { name := "user" })).table = some { name := "user" } := by
  intro page joined requests
  have built : ∀ request ∈ requests, request.IsBuilt := by
    simp only [requests, List.forall_mem_cons]
    exact ⟨trivial, trivial, trivial, ⟨⟨none, []⟩, rfl, rfl⟩,
      ⟨⟨some { name := "page" }, [.editOn [.addLiteral "1 < 2"]]⟩, rfl, rfl⟩, by simp⟩
  obtain ⟨-, firsts, -, after, names⟩ :=
    first_join_stays (.ofTable { name := "user" }) requests built
  rw [names, after]
  exact ⟨by decide, rfl⟩

end JoinRequest

end BoundSql
