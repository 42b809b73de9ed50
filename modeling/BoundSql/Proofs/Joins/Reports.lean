import BoundSql.Proofs.Joins.Registration
/-!
# Reports of ignored joins

A request for a join of a name that is registered is ignored.  It is reported if it asks for a
table to be joined on an equality.  A request without an equality, or for a SELECT that is
already built, is ignored without a report.
-/

namespace BoundSql

open Editing

/-! ### Calls -/

/-- A request for a join, and the calls on the join that it leads to. -/
inductive JoinCall where
  | call (request : JoinRequest) (inner : List JoinCall)

/-- A request as it was made, with the SELECT before it. -/
structure MadeRequest where
  before : Select
  request : JoinRequest

namespace JoinCall

mutual

/-- Makes the request, and then the calls on the join unless the request fails. -/
def run : JoinCall → Editing Select Reply
  | .call request inner => do
    let index ← request.register
    let replies ← Select.withinJoin index (runAll inner)
    return .within replies

/-- Makes calls one after the other, also after one that fails. -/
def runAll : List JoinCall → Editing Select (List Reply)
  | [] => return []
  | first :: rest => do
    let reply ← OnFailure.proceed.settle first.run
    let replies ← runAll rest
    return reply :: replies

end

mutual

/-- The requests that a call makes, in their order. -/
def made : JoinCall → Select → List MadeRequest
  | .call request inner, select =>
    { before := select, request } ::
      match (request.register select).result with
      | .error _ => []
      | .ok index => madeAll inner ((request.register select).state.joins.getD index .unbound)

def madeAll : List JoinCall → Select → List MadeRequest
  | [], _ => []
  | first :: rest, select => made first select ++ madeAll rest (first.run select).state

end

end JoinCall

/-! ### One request -/

/-- Whether a request of this kind is reported where it is ignored. -/
def JoinRequest.isReported : JoinRequest → Bool
  | .join .. => true
  | .cross .. | .add .. => false

namespace MadeRequest

/-- The name that is asked for, if a join of that name is registered. -/
def ignored? (made : MadeRequest) : Option String :=
  made.request.name?.filter fun name => some name ∈ made.before.joinNames

/-- What is reported of the request. -/
def report? (made : MadeRequest) : Option Event :=
  if made.request.isReported then made.ignored?.map .ignoredJoin else none

variable {request : JoinRequest} {select : Select} {name : String}

theorem ignored?_of_found (named : request.name? = some name) {index : Nat}
    (found : select.joinIndex? name = some index) :
    ignored? { before := select, request } = some name := by
  have known := List.mem_of_getElem? (Select.joinNames_of_joinIndex? found)
  exact Option.filter_eq_some_iff.mpr ⟨named, by simpa using known⟩

theorem ignored?_of_fresh (named : request.name? = some name)
    (fresh : select.joinIndex? name = none) :
    ignored? { before := select, request } = none := by
  rw [ignored?, named, Option.filter_some, if_neg]
  simpa using Select.notMem_joinNames fresh

theorem report?_eq_none (silent : request.isReported = false) :
    report? { before := select, request } = none := by
  rw [report?, silent]
  rfl

end MadeRequest

namespace JoinRequest

theorem registers {request : JoinRequest} {name : String} (named : request.name? = some name) :
    Select.Registers request.register name := by
  cases request with
  | join table own referred columns joinType =>
    obtain rfl := Option.some.inj named
    exact Select.join_registers table own referred columns joinType
  | cross table columns =>
    obtain rfl := Option.some.inj named
    exact Select.crossJoin_registers table columns
  | add child own referred => exact Select.addJoin_registers named own referred

/-- The requests that are ignored are those that change nothing and lead to a join. -/
theorem isSome_ignored?_iff (made : MadeRequest) :
    made.ignored?.isSome ↔
      ∃ index, made.request.register.Leads made.before index made.before := by
  constructor
  · intro ignored
    obtain ⟨name, ignored⟩ := Option.isSome_iff_exists.mp ignored
    obtain ⟨named, known⟩ := Option.filter_eq_some_iff.mp ignored
    obtain ⟨index, found⟩ := exists_joinIndex? (of_decide_eq_true known)
    exact ⟨index, register_of_found named found⟩
  · rintro ⟨index, leads⟩
    cases named : made.request.name? with
    | none => exact absurd leads (register_of_unnamed named _).1.not_leads
    | some name =>
      rcases registers named leads with ⟨-, place⟩ | ⟨join, -, -, longer, -⟩
      · rw [MadeRequest.ignored?, named]
        simpa using List.mem_of_getElem? place
      · have joins := congrArg (fun select => select.joins.length) longer
        simp at joins

theorem events_openJoin (table : Table) (columns : List String) (joinType : JoinType)
    (link : Select → Select) (select : Select) :
    ((do
      let join ← Select.openJoin table columns joinType
      Select.pushJoin (link join) : Editing Select Nat) select).events = [] := by
  rw [Select.openJoin_bind]
  rfl

theorem events_register (request : JoinRequest) (select : Select) :
    (request.register select).events =
      (MadeRequest.report? { before := select, request }).toList := by
  cases request with
  | join table own referred columns joinType =>
    rw [register, Select.join, current_bind, MadeRequest.report?]
    cases found : select.joinIndex? table.name with
    | some index =>
      rw [MadeRequest.ignored?_of_found rfl found]
      rfl
    | none =>
      rw [MadeRequest.ignored?_of_fresh rfl found]
      exact events_openJoin table columns joinType
        (·.linkTo referred (select.resolve own)) select
  | cross table columns =>
    rw [register, Select.crossJoin, current_bind, MadeRequest.report?_eq_none rfl]
    cases select.joinIndex? table.name with
    | some index => rfl
    | none => exact events_openJoin table columns .cross id select
  | add child own referred =>
    rw [register, Select.addJoin, current_bind, MadeRequest.report?_eq_none rfl]
    cases child.table with
    | none => rfl
    | some table =>
      cases found : select.joinIndex? table.name with
      | some index => simp only [found]; rfl
      | none => simp only [found]; rfl

/-- What is reported of a request comes before what is reported of those after it. -/
theorem filterMap_report?_cons (request : JoinRequest) (select : Select)
    (others : List MadeRequest) :
    ({ before := select, request } :: others).filterMap MadeRequest.report? =
      (request.register select).events ++ others.filterMap MadeRequest.report? := by
  rw [request.events_register, List.filterMap_cons]
  cases MadeRequest.report? { before := select, request } <;> rfl

end JoinRequest

/-! ### All calls -/

namespace JoinCall

mutual

theorem events_run (joining : JoinCall) (select : Select) :
    (joining.run select).events = (joining.made select).filterMap MadeRequest.report? := by
  cases joining with
  | call request inner =>
    rw [run, made, request.filterMap_report?_cons]
    rcases request.register.leads_or_fails select with ⟨index, final, leads⟩ | ⟨error, fails⟩
    · rw [events_bind_of_leads leads, events_bind_pure, leads.result, leads.state]
      exact congrArg _ (events_runAll inner (final.joins.getD index .unbound))
    · rw [events_bind_of_fails fails, fails, List.filterMap_nil, List.append_nil]

theorem events_runAll (calls : List JoinCall) (select : Select) :
    (runAll calls select).events = (madeAll calls select).filterMap MadeRequest.report? := by
  cases calls with
  | nil => rfl
  | cons first rest =>
    obtain ⟨reply, final, leads⟩ := settle_succeeds first.run select
    have ends : (first.run select).state = final := by rw [← leads.state, state_settle]
    rw [runAll, madeAll, List.filterMap_append, ends, ← events_run first select,
      ← events_runAll rest final, events_bind_of_leads leads, events_bind_pure, events_settle]

end

end JoinCall

namespace MadeRequest

theorem filterMap_report? (made : List MadeRequest) :
    made.filterMap report? =
      ((made.filter (·.request.isReported)).filterMap ignored?).map .ignoredJoin := by
  rw [List.filterMap_filter, List.map_filterMap]
  congr 1
  funext one
  rw [report?]
  split <;> rfl

theorem length_filterMap_report?_le (made : List MadeRequest) :
    (made.filterMap report?).length ≤ (made.filterMap ignored?).length := by
  rw [filterMap_report?, List.length_map]
  exact (List.filter_sublist.filterMap ignored?).length_le

/-- All that is ignored is reported if it is all of the kind that is reported. -/
theorem filterMap_report?_eq_iff (made : List MadeRequest) :
    made.filterMap report? = (made.filterMap ignored?).map .ignoredJoin ↔
      ∀ one ∈ made, one.ignored?.isSome → one.request.isReported := by
  induction made with
  | nil => simp
  | cons one rest ih =>
    rw [List.forall_mem_cons, ← ih]
    cases ignored : one.ignored? with
    | none =>
      have silent : one.report? = none := by rw [report?, ignored, Option.map_none, ite_self]
      simp [ignored, silent]
    | some name =>
      cases kind : one.request.isReported with
      | true =>
        have told : one.report? = some (.ignoredJoin name) := by
          rw [report?, kind, ignored]
          rfl
        simp [ignored, told]
      | false =>
        have silent : one.report? = none := by
          rw [report?, kind]
          rfl
        -- One event is missing, and the other requests do not make up for it.
        have fewer := length_filterMap_report?_le rest
        have differ : rest.filterMap report? ≠
            .ignoredJoin name :: (rest.filterMap ignored?).map .ignoredJoin := by
          intro same
          have lengths := congrArg List.length same
          rw [List.length_cons, List.length_map] at lengths
          omega
        simp [ignored, silent, differ]

end MadeRequest

/-- Which ignored joins are reported.  In whatever state a request for a join is made, it is
ignored if a join of its name is registered, and then it changes nothing; no other request
leaves the SELECT as it is and leads to a join.  Calls on a SELECT and on its joins emit an
event for each request that is ignored and asks for a table to be joined on an equality, with
the name that it asks for, in the order of the calls, and no other event.  So every ignored
request is reported exactly if all of them are of this kind. -/
theorem ignored_joins_are_reported (calls : List JoinCall) (select : Select) :
    (∀ made ∈ JoinCall.madeAll calls select, made.ignored?.isSome ↔
      ∃ index, made.request.register.Leads made.before index made.before) ∧
    (JoinCall.runAll calls select).events =
      (((JoinCall.madeAll calls select).filter (·.request.isReported)).filterMap
        MadeRequest.ignored?).map .ignoredJoin ∧
    ((JoinCall.runAll calls select).events =
        ((JoinCall.madeAll calls select).filterMap MadeRequest.ignored?).map .ignoredJoin ↔
      ∀ made ∈ JoinCall.madeAll calls select,
        made.ignored?.isSome → made.request.isReported) := by
  rw [JoinCall.events_runAll]
  exact ⟨fun made _ => JoinRequest.isSome_ignored?_iff made, MadeRequest.filterMap_report? _,
    MadeRequest.filterMap_report?_eq_iff _⟩

/-- A table that is joined twice, and within its join another. -/
theorem ignored_joins_are_reported_within :
    let news (inner : List JoinCall) : JoinCall :=
      .call (.join { name := "news" } (.bare "id") (.bare "author") [] .left) inner
    let book : JoinCall := .call (.cross { name := "book" } []) []
    let calls := [news [book], news [news []], news []]
    let user := Select.ofTable { name := "user" }
    (JoinCall.runAll calls user).events = [.ignoredJoin "news", .ignoredJoin "news"] := by
  intro news book calls user
  have every : ∀ made ∈ JoinCall.madeAll calls user,
      made.ignored?.isSome → made.request.isReported := by decide +kernel
  rw [(ignored_joins_are_reported calls user).2.2.mpr every]
  decide +kernel

/-- A table that is joined twice without an equality: nothing is reported. -/
theorem ignored_joins_are_reported_ne :
    let calls : List JoinCall :=
      [.call (.cross { name := "news" } []) [], .call (.cross { name := "news" } []) []]
    let user := Select.ofTable { name := "user" }
    (JoinCall.runAll calls user).events ≠
      ((JoinCall.madeAll calls user).filterMap MadeRequest.ignored?).map .ignoredJoin := by
  decide +kernel

end BoundSql
