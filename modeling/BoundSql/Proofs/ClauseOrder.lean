import BoundSql.Compile
import BoundSql.Proofs.Editing
/-!
# The order of clauses

The clauses of each kind stand in a list of their own.  An edit that adds a clause reads
nothing of the condition but its table, and changes nothing but the list of its kind.  So
the clauses of a kind depend on the edits of that kind alone, and it does not matter how
edits of different kinds are mixed.
-/

namespace BoundSql

namespace Editing

variable {State α β : Type}

/-- What an operation has as its result does not depend on the state, which it leaves as
it is. -/
def Stateless (editing : Editing State α) : Prop :=
  ∃ result, ∀ state, (editing state).state = state ∧ (editing state).result = result

/-- What is worked out beside the state does not look at it. -/
theorem stateless_logged (outcome : Logged α) : (liftM outcome : Editing State α).Stateless :=
  ⟨outcome.result, fun _ => ⟨rfl, rfl⟩⟩

theorem stateless_except (outcome : Except Error α) :
    (liftM outcome : Editing State α).Stateless :=
  ⟨outcome, fun _ => ⟨rfl, rfl⟩⟩

/-- A view of the state after an operation is that of an operation on the view if the view
is affected, and otherwise the view of the state before it. -/
def ActsOnView (view : State → State) (affected : Prop) [Decidable affected]
    (editing : Editing State α) : Prop :=
  ∀ state, view (editing state).state =
    if affected then (editing (view state)).state else view state

section Views

variable {view : State → State} {affected : Prop} [Decidable affected]

theorem actsOnView_change {edit : State → State}
    (acts : ∀ state, view (edit state) = if affected then edit (view state) else view state) :
    (change edit).ActsOnView view affected :=
  acts

theorem actsOnView_done {edit : State → State}
    (acts : ∀ state, view (edit state) = if affected then edit (view state) else view state) :
    (done edit).ActsOnView view affected :=
  acts

theorem Stateless.bind_actsOnView {first : Editing State α} {next : α → Editing State β}
    (stateless : first.Stateless) (further : ∀ value, (next value).ActsOnView view affected) :
    (first >>= next).ActsOnView view affected := by
  obtain ⟨result, same⟩ := stateless
  intro state
  cases result with
  | error error =>
    have fails : ∀ state, first.Fails state error := fun state => (same state).2
    rw [(bind_of_fails (fails state) next).1, (bind_of_fails (fails (view state)) next).1,
      (same state).1, (same (view state)).1, ite_self]
  | ok value =>
    have leads : ∀ state, first.Leads state value state :=
      fun state => ⟨(same state).2, (same state).1⟩
    rw [(bind_of_leads (leads state) next).1, (bind_of_leads (leads (view state)) next).1]
    exact further value state

theorem ActsOnView.returning {first : Editing State α} (acts : first.ActsOnView view affected)
    (result : α → β) :
    ActsOnView view affected do
      let value ← first
      return result value := by
  intro state
  rw [state_bind_pure, state_bind_pure]
  exact acts state

end Views

end Editing

open Editing

/-- The kinds of clauses. -/
inductive ClauseKind where
  | comparison
  | range
  | membership
  | nullCheck
  | bit
  | search
  | existence
  | literal
  | subcondition
deriving DecidableEq

/-- The kind of the clause that an edit adds, if it adds one. -/
def ConditionEdit.clauseKind? : ConditionEdit → Option ClauseKind
  | .compare .. => some .comparison
  | .addMembership .. => some .membership
  | .addRange .. => some .range
  | .addNullCheck .. => some .nullCheck
  | .addBit .. => some .bit
  | .addSearch .. => some .search
  | .addExistence .. => some .existence
  | .addLiteral .. => some .literal
  | .addSubcondition .. => some .subcondition
  | .setConjunction _ | .useConjunction _ | .replace _ | .inspect => none

namespace Condition

/-- The condition with its clauses of one kind and no others, and with no conjunction of
its own. -/
def only (kind : ClauseKind) (condition : Condition) : Condition :=
  match kind with
  | .comparison => { table := condition.table, comparisons := condition.comparisons }
  | .range => { table := condition.table, ranges := condition.ranges }
  | .membership => { table := condition.table, memberships := condition.memberships }
  | .nullCheck => { table := condition.table, nullChecks := condition.nullChecks }
  | .bit => { table := condition.table, bits := condition.bits }
  | .search => { table := condition.table, searches := condition.searches }
  | .existence => { table := condition.table, existences := condition.existences }
  | .literal => { table := condition.table, literals := condition.literals }
  | .subcondition => { table := condition.table, subconditions := condition.subconditions }

/-- A condition is its conjunction and its clauses of the nine kinds. -/
theorem eq_of_only {left right : Condition} (conjunction : left.conjunction = right.conjunction)
    (same : ∀ kind, left.only kind = right.only kind) : left = right := by
  have table := congrArg Condition.table (same .literal)
  have comparisons := congrArg Condition.comparisons (same .comparison)
  have ranges := congrArg Condition.ranges (same .range)
  have memberships := congrArg Condition.memberships (same .membership)
  have nullChecks := congrArg Condition.nullChecks (same .nullCheck)
  have bits := congrArg Condition.bits (same .bit)
  have searches := congrArg Condition.searches (same .search)
  have existences := congrArg Condition.existences (same .existence)
  have literals := congrArg Condition.literals (same .literal)
  have subconditions := congrArg Condition.subconditions (same .subcondition)
  cases left
  cases right
  simp_all [only]

end Condition

namespace ConditionEdit

/-- An edit changes the clauses of the kind that it adds to, and does not look at others. -/
theorem run_actsOnView (policy : OnFailure) (kind : ClauseKind) (edit : ConditionEdit)
    (added : ∀ table, edit ≠ .replace table) :
    (edit.run policy).ActsOnView (Condition.only kind) (edit.clauseKind? = some kind) := by
  cases edit with
  | compare =>
    simp only [ConditionEdit.run]
    refine (stateless_except _).bind_actsOnView fun _ =>
      (stateless_logged _).bind_actsOnView fun _ => actsOnView_done fun _ => ?_
    cases kind <;> rfl
  | addMembership | addRange | addNullCheck | addBit | addSearch =>
    simp only [ConditionEdit.run]
    refine (stateless_except _).bind_actsOnView fun _ => actsOnView_done fun _ => ?_
    cases kind <;> rfl
  | addExistence =>
    simp only [ConditionEdit.run]
    refine (stateless_logged _).bind_actsOnView fun _ => actsOnView_done fun _ => ?_
    cases kind <;> rfl
  | addLiteral | useConjunction =>
    simp only [ConditionEdit.run]
    refine actsOnView_done fun _ => ?_
    cases kind <;> rfl
  | setConjunction =>
    simp only [ConditionEdit.run]
    refine .returning ((stateless_except _).bind_actsOnView fun _ =>
      actsOnView_change fun _ => ?_) _
    cases kind <;> rfl
  | addSubcondition =>
    simp only [ConditionEdit.run]
    refine .returning (fun _ => ?_) _
    -- The subcondition is built from the table, which the view keeps.
    cases kind <;> rfl
  | replace table => exact absurd rfl (added table)
  | inspect =>
    intro condition
    cases kind <;> rfl

theorem runAll_succeeds (edits : List ConditionEdit) :
    (ConditionEdit.runAll .proceed edits).Succeeds := by
  induction edits with
  | nil => exact succeeds_pure _
  | cons edit rest ih =>
    exact (settle_succeeds _).bind fun _ => ih.bind fun _ => succeeds_pure _

theorem state_runAll_cons (edit : ConditionEdit) (rest : List ConditionEdit)
    (condition : Condition) :
    (ConditionEdit.runAll .proceed (edit :: rest) condition).state =
      (ConditionEdit.runAll .proceed rest (edit.run .proceed condition).state).state := by
  obtain ⟨reply, between, leads⟩ := settle_succeeds (edit.run .proceed) condition
  obtain rfl : (edit.run .proceed condition).state = between :=
    (state_settle ..).symm.trans leads.state
  rw [ConditionEdit.runAll, (bind_of_leads leads _).1, state_bind_pure]

/-- The clauses of a kind are those that the edits of the kind add. -/
theorem only_runAll (kind : ClauseKind) {edits : List ConditionEdit}
    (added : ∀ table, .replace table ∉ edits) (condition : Condition) :
    (ConditionEdit.runAll .proceed edits condition).state.only kind =
      (ConditionEdit.runAll .proceed (edits.filter (·.clauseKind? = some kind))
        (condition.only kind)).state := by
  induction edits generalizing condition with
  | nil => rfl
  | cons edit rest ih =>
    have first := run_actsOnView .proceed kind edit fun table same =>
      added table (same ▸ List.mem_cons_self)
    have others := ih fun table mem => added table (List.mem_cons_of_mem _ mem)
    rw [state_runAll_cons, others, first condition]
    by_cases of : edit.clauseKind? = some kind
    · rw [if_pos of, List.filter_cons_of_pos (by simpa using of), state_runAll_cons]
    · rw [if_neg of, List.filter_cons_of_neg (by simpa using of)]

end ConditionEdit

/-- Edits of different kinds can be mixed in any way.  Two runs of edits from one condition
that hold the same edits of each kind, in the same order, and end with the same conjunction
lead to the same condition, so that a statement with the one compiles as it does with the
other.  Edits that set the conjunction and edits that fail may stand anywhere between. -/
theorem clause_kinds_commute (start : Condition) (first second : List ConditionEdit)
    (added : ∀ table, .replace table ∉ first ++ second)
    (same : ∀ kind, first.filter (·.clauseKind? = some kind) =
      second.filter (·.clauseKind? = some kind)) :
    ∃ replies others left right,
      (ConditionEdit.runAll .proceed first).Leads start replies left ∧
      (ConditionEdit.runAll .proceed second).Leads start others right ∧
      (left.conjunction = right.conjunction →
        left = right ∧ ∀ (statement : Condition → Statement) (dialect : Dialect),
          (statement left).compile dialect = (statement right).compile dialect) := by
  obtain ⟨replies, left, runs⟩ := ConditionEdit.runAll_succeeds first start
  obtain ⟨others, right, runs'⟩ := ConditionEdit.runAll_succeeds second start
  refine ⟨replies, others, left, right, runs, runs', fun conjunction => ?_⟩
  have equal : left = right := by
    refine Condition.eq_of_only conjunction fun kind => ?_
    calc
      left.only kind = (ConditionEdit.runAll .proceed
            (first.filter (·.clauseKind? = some kind)) (start.only kind)).state := by
          rw [← runs.state]
          exact ConditionEdit.only_runAll kind
            (fun table mem => added table (List.mem_append_left _ mem)) start
      _ = (ConditionEdit.runAll .proceed
            (second.filter (·.clauseKind? = some kind)) (start.only kind)).state := by
          rw [same kind]
      _ = right.only kind := by
          rw [← runs'.state]
          exact (ConditionEdit.only_runAll kind
            (fun table mem => added table (List.mem_append_right _ mem)) start).symm
  exact ⟨equal, fun statement dialect => by rw [equal]⟩

/-- A comparison, a literal and a subcondition, in two orders and with a conjunction set at
the start or at the end. -/
theorem clause_kinds_commute_reversed :
    let comparison := ConditionEdit.compare (.bare "id") .equals (.value (.integer 1))
    let literal := ConditionEdit.addLiteral "1 < 2"
    let nested := ConditionEdit.addSubcondition .andNot
      [.addNullCheck (.bare "role") true, .setConjunction "or", .addLiteral "2 < 3"]
    let first := [comparison, literal, nested, .setConjunction "or"]
    let second := [.useConjunction .or, nested, literal, .inspect, comparison]
    let start := Condition.bound (some { name := "user" })
    let left := (ConditionEdit.runAll .proceed first start).state
    let right := (ConditionEdit.runAll .proceed second start).state
    left = right ∧ ∀ (statement : Condition → Statement) (dialect : Dialect),
      (statement left).compile dialect = (statement right).compile dialect := by
  intro comparison literal nested first second start left right
  have added : ∀ table, ConditionEdit.replace table ∉ first ++ second := by
    simp [first, second, comparison, literal, nested]
  have same : ∀ kind, first.filter (·.clauseKind? = some kind) =
      second.filter (·.clauseKind? = some kind) := by
    intro kind
    cases kind <;> rfl
  obtain ⟨_, _, _, _, runs, runs', equal⟩ := clause_kinds_commute start first second added same
  obtain rfl := runs.state
  obtain rfl := runs'.state
  exact equal (by decide +kernel)

end BoundSql
