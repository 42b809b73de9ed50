import BoundSql.Edit.Script
/-!
# Laws of editing in place

What an operation made of others leads to, and which operations leave the state as it is
where they fail.
-/

namespace BoundSql.Editing

variable {State Part α β : Type}

/-- The operation succeeds in a state, with a value, and leaves another state. -/
structure Leads (editing : Editing State α) (state : State) (value : α) (final : State) :
    Prop where
  result : (editing state).result = .ok value
  state : (editing state).state = final

def Fails (editing : Editing State α) (state : State) (error : Error) : Prop :=
  (editing state).result = .error error

theorem leads_or_fails (editing : Editing State α) (state : State) :
    (∃ value final, editing.Leads state value final) ∨ ∃ error, editing.Fails state error := by
  cases outcome : (editing state).result with
  | error error => exact .inr ⟨error, outcome⟩
  | ok value => exact .inl ⟨value, _, outcome, rfl⟩

theorem Fails.not_leads {editing : Editing State α} {state final : State} {error : Error}
    {value : α} (fails : editing.Fails state error) :
    ¬ editing.Leads state value final := by
  rintro ⟨succeeded, -⟩
  rw [fails] at succeeded
  cases succeeded

theorem Leads.unique {editing : Editing State α} {state final other : State}
    {value result : α} (leads : editing.Leads state value final)
    (again : editing.Leads state result other) : value = result ∧ final = other :=
  ⟨Except.ok.inj (leads.result.symm.trans again.result), leads.state.symm.trans again.state⟩

/-! ### Two operations, one after the other -/

theorem bind_of_leads {first : Editing State α} {state between : State} {value : α}
    (leads : first.Leads state value between) (next : α → Editing State β) :
    ((first >>= next) state).state = (next value between).state ∧
      ((first >>= next) state).result = (next value between).result := by
  obtain ⟨succeeded, rfl⟩ := leads
  show (Editing.bind first next state).state = _ ∧ (Editing.bind first next state).result = _
  unfold Editing.bind
  split <;> simp_all

theorem bind_of_fails {first : Editing State α} {state : State} {error : Error}
    (fails : first.Fails state error) (next : α → Editing State β) :
    ((first >>= next) state).state = (first state).state ∧
      (first >>= next).Fails state error := by
  unfold Fails at fails ⊢
  show (Editing.bind first next state).state = _ ∧ (Editing.bind first next state).result = _
  unfold Editing.bind
  split <;> simp_all

theorem Leads.bind {first : Editing State α} {next : α → Editing State β}
    {state between final : State} {value : α} {result : β}
    (before : first.Leads state value between) (after : (next value).Leads between result final) :
    (first >>= next).Leads state result final := by
  obtain ⟨ends, gives⟩ := bind_of_leads before next
  exact ⟨gives.trans after.result, ends.trans after.state⟩

theorem Leads.of_bind {first : Editing State α} {next : α → Editing State β}
    {state final : State} {result : β} (leads : (first >>= next).Leads state result final) :
    ∃ value between, first.Leads state value between ∧
      (next value).Leads between result final := by
  rcases first.leads_or_fails state with ⟨value, between, before⟩ | ⟨error, fails⟩
  · obtain ⟨ends, gives⟩ := bind_of_leads before next
    exact ⟨value, between, before, gives.symm.trans leads.result, ends.symm.trans leads.state⟩
  · exact absurd leads (bind_of_fails fails next).2.not_leads

theorem state_bind_pure (editing : Editing State α) (result : α → β) (state : State) :
    ((do
      let value ← editing
      return result value : Editing State β) state).state = (editing state).state := by
  rcases editing.leads_or_fails state with ⟨value, final, leads⟩ | ⟨error, fails⟩
  · rw [(bind_of_leads leads _).1, leads.state]
    rfl
  · rw [(bind_of_fails fails _).1]

/-! ### The other operations -/

theorem leads_pure (value : α) (state : State) :
    (pure value : Editing State α).Leads state value state :=
  ⟨rfl, rfl⟩

theorem leads_current (state : State) : (current : Editing State State).Leads state state state :=
  ⟨rfl, rfl⟩

theorem Leads.of_current {next : State → Editing State β} {state final : State} {result : β}
    (leads : (current >>= next).Leads state result final) :
    (next state).Leads state result final :=
  ⟨leads.result, leads.state⟩

theorem Leads.within {part : State → Part} {replace : State → Part → State}
    {editing : Editing Part α} {state : State} {value : α} {final : Part}
    (leads : editing.Leads (part state) value final) :
    (within part replace editing).Leads state value (replace state final) :=
  ⟨leads.result, congrArg (replace state) leads.state⟩

theorem Leads.onCopy {editing : Editing State α} {state edited : State} {value : α}
    (leads : editing.Leads state value edited) :
    (onCopy editing).Leads state (edited, value) state := by
  refine ⟨?_, rfl⟩
  rw [Editing.onCopy, leads.result, leads.state]
  rfl

theorem Leads.settle {editing : Editing State Reply} {state final : State} {reply : Reply}
    (policy : OnFailure) (leads : editing.Leads state reply final) :
    (policy.settle editing).Leads state reply final := by
  obtain ⟨result, ends⟩ := leads
  suffices settled : policy.settle editing state = editing state by
    exact ⟨settled ▸ result, settled ▸ ends⟩
  unfold OnFailure.settle
  split <;> simp_all

theorem Fails.settle {editing : Editing State Reply} {state : State} {error : Error}
    (fails : editing.Fails state error) :
    (OnFailure.settle .proceed editing).Leads state (.failed error) (editing state).state := by
  unfold Fails at fails
  constructor <;> unfold OnFailure.settle <;> cases left : editing state <;> simp_all

theorem state_settle (policy : OnFailure) (editing : Editing State Reply) (state : State) :
    (policy.settle editing state).state = (editing state).state := by
  unfold OnFailure.settle
  split
  · next left => rw [left]
  · rfl

/-- A computation that takes the state that an operation leads to. -/
theorem state_of_logged {editing : Editing State α} {start state : State}
    (built : (do
      let (state, _) ← (editing start).logged
      return state : Logged State).result = .ok state) :
    state = (editing start).state := by
  change (Logged.bind _ _).result = _ at built
  rw [Logged.bind] at built
  cases outcome : (editing start).result with
  | error error =>
    simp [Edited.logged, outcome, Except.map] at built
  | ok value =>
    simp [Edited.logged, outcome, Except.map] at built
    exact (Except.ok.inj built).symm

/-! ### Events -/

theorem events_bind_of_leads {first : Editing State α} {state between : State} {value : α}
    (leads : first.Leads state value between) (next : α → Editing State β) :
    ((first >>= next) state).events = (first state).events ++ (next value between).events := by
  obtain ⟨succeeded, rfl⟩ := leads
  show (Editing.bind first next state).events = _
  unfold Editing.bind
  split <;> simp_all

theorem events_bind_of_fails {first : Editing State α} {state : State} {error : Error}
    (fails : first.Fails state error) (next : α → Editing State β) :
    ((first >>= next) state).events = (first state).events := by
  unfold Fails at fails
  show (Editing.bind first next state).events = _
  unfold Editing.bind
  split <;> simp_all

theorem events_bind_pure (editing : Editing State α) (result : α → β) (state : State) :
    ((do
      let value ← editing
      return result value : Editing State β) state).events = (editing state).events := by
  rcases editing.leads_or_fails state with ⟨value, final, leads⟩ | ⟨error, fails⟩
  · rw [events_bind_of_leads leads]
    exact List.append_nil _
  · rw [events_bind_of_fails fails]

theorem events_settle (policy : OnFailure) (editing : Editing State Reply) (state : State) :
    (policy.settle editing state).events = (editing state).events := by
  unfold OnFailure.settle
  split
  · next left => rw [left]
  · rfl

/-! ### Failures -/

/-- An operation that leaves the state as it is. -/
def Checks (editing : Editing State α) : Prop :=
  ∀ state, (editing state).state = state

/-- An operation that cannot fail. -/
def Succeeds (editing : Editing State α) : Prop :=
  ∀ state, ∃ value final, editing.Leads state value final

/-- An operation that leaves the state as it is where it fails. -/
def IsAtomic (editing : Editing State α) : Prop :=
  ∀ state error, editing.Fails state error → (editing state).state = state

theorem Succeeds.isAtomic {editing : Editing State α} (succeeds : editing.Succeeds) :
    editing.IsAtomic := by
  intro state error fails
  obtain ⟨value, final, leads⟩ := succeeds state
  exact absurd leads fails.not_leads

theorem succeeds_pure (value : α) : (pure value : Editing State α).Succeeds :=
  fun state => ⟨value, state, leads_pure value state⟩

theorem succeeds_current : (current : Editing State State).Succeeds :=
  fun state => ⟨state, state, leads_current state⟩

theorem succeeds_change (edit : State → State) : (change edit).Succeeds :=
  fun state => ⟨(), edit state, rfl, rfl⟩

theorem Succeeds.within {part : State → Part} {replace : State → Part → State}
    {editing : Editing Part α} (succeeds : editing.Succeeds) :
    (within part replace editing).Succeeds := by
  intro state
  obtain ⟨value, final, leads⟩ := succeeds (part state)
  exact ⟨value, _, leads.within⟩

theorem Succeeds.bind {first : Editing State α} {next : α → Editing State β}
    (succeeds : first.Succeeds) (further : ∀ value, (next value).Succeeds) :
    (first >>= next).Succeeds := by
  intro state
  obtain ⟨value, between, before⟩ := succeeds state
  obtain ⟨result, final, after⟩ := further value between
  exact ⟨result, final, before.bind after⟩

/-- What is checked first may fail, and so may what comes after it. -/
theorem Checks.bind_isAtomic {first : Editing State α} {next : α → Editing State β}
    (checks : first.Checks) (further : ∀ value, (next value).IsAtomic) :
    (first >>= next).IsAtomic := by
  intro state error fails
  rcases first.leads_or_fails state with ⟨value, between, before⟩ | ⟨error, stops⟩
  · obtain rfl : state = between := (checks state).symm.trans before.state
    obtain ⟨ends, gives⟩ := bind_of_leads before next
    exact ends.trans (further value state error (gives.symm.trans fails))
  · exact (bind_of_fails stops next).1.trans (checks state)

/-- What holds of a state holds after a check that fails, too. -/
theorem Checks.bind_satisfies {first : Editing State α} {next : α → Editing State β}
    {property : State → Prop} {state : State} (checks : first.Checks) (holds : property state)
    (further : ∀ value, first.Leads state value state → property (next value state).state) :
    property ((first >>= next) state).state := by
  rcases first.leads_or_fails state with ⟨value, between, leads⟩ | ⟨error, fails⟩
  · obtain rfl : state = between := (checks state).symm.trans leads.state
    rw [(bind_of_leads leads next).1]
    exact further value leads
  · rw [(bind_of_fails fails next).1, checks state]
    exact holds

/-- Once a state is changed, nothing that comes after may fail. -/
theorem IsAtomic.bind_succeeds {first : Editing State α} {next : α → Editing State β}
    (atomic : first.IsAtomic) (further : ∀ value, (next value).Succeeds) :
    (first >>= next).IsAtomic := by
  intro state error fails
  rcases first.leads_or_fails state with ⟨value, between, before⟩ | ⟨error, stops⟩
  · obtain ⟨result, final, after⟩ := further value between
    exact absurd (before.bind after) fails.not_leads
  · exact (bind_of_fails stops next).1.trans (atomic state error stops)

/-! ### Invariants -/

/-- The operation leads from states with a property only to such states, also where it
fails. -/
def Keeps (invariant : State → Prop) (editing : Editing State α) : Prop :=
  ∀ state, invariant state → invariant (editing state).state

section Invariants

variable {invariant : State → Prop}

theorem Checks.keeps {editing : Editing State α} (checks : editing.Checks) :
    editing.Keeps invariant :=
  fun state holds => (checks state).symm ▸ holds

theorem keeps_done {edit : State → State} (keeps : ∀ state, invariant state →
    invariant (edit state)) : (done edit).Keeps invariant :=
  keeps

theorem Keeps.bind {first : Editing State α} {next : α → Editing State β}
    (keeps : first.Keeps invariant)
    (further : ∀ {state value final}, first.Leads state value final →
      (next value).Keeps invariant) :
    (first >>= next).Keeps invariant := by
  intro state holds
  rcases first.leads_or_fails state with ⟨value, between, leads⟩ | ⟨error, fails⟩
  · rw [(bind_of_leads leads next).1]
    exact further leads between (leads.state ▸ keeps state holds)
  · rw [(bind_of_fails fails next).1]
    exact keeps state holds

theorem keeps_pure (value : α) : (pure value : Editing State α).Keeps invariant :=
  Checks.keeps fun _ => rfl

/-- What is given back changes nothing. -/
theorem Keeps.returning {first : Editing State α} (keeps : first.Keeps invariant)
    (result : α → β) :
    Keeps invariant do
      let value ← first
      return result value :=
  keeps.bind fun _ => keeps_pure _

theorem Keeps.check {first : Editing State α} {next : α → Editing State β}
    (checks : first.Checks) (further : ∀ value, (next value).Keeps invariant) :
    (first >>= next).Keeps invariant :=
  checks.keeps.bind fun _ => further _

theorem Keeps.outcome {editing : Editing State Unit} (keeps : editing.Keeps invariant)
    {state final : State} (holds : invariant state)
    (leaves : (editing state).outcome = .ok final) : invariant final := by
  rw [Edited.outcome] at leaves
  cases outcome : (editing state).result with
  | error error => simp [outcome, Except.map] at leaves
  | ok value =>
    obtain rfl : (editing state).state = final := by simpa [outcome, Except.map] using leaves
    exact keeps state holds

/-- Operations on a part: the state has the property if the part has one of its own. -/
theorem Keeps.within {part : State → Part} {replace : State → Part → State}
    {editing : Editing Part α} (inner : State → Part → Prop)
    (keeps : ∀ state, editing.Keeps (inner state))
    (gives : ∀ state, invariant state → inner state (part state))
    (takes : ∀ state part, invariant state → inner state part →
      invariant (replace state part)) :
    (within part replace editing).Keeps invariant :=
  fun state holds => takes state _ holds (keeps state _ (gives state holds))

theorem Keeps.settle {editing : Editing State Reply} (keeps : editing.Keeps invariant)
    (policy : OnFailure) : (policy.settle editing).Keeps invariant := by
  intro state holds
  rw [state_settle]
  exact keeps state holds

/-- An edit before others. -/
theorem Keeps.cons {edit : Editing State Reply} {rest : Editing State (List Reply)}
    (first : edit.Keeps invariant) (others : rest.Keeps invariant) (policy : OnFailure) :
    Keeps invariant do
      let reply ← policy.settle edit
      let replies ← rest
      return reply :: replies :=
  (first.settle policy).bind fun _ => others.returning _

end Invariants

/-! ### Runs -/

section Runs

variable {Edit : Type} {wrap : State → Statement}

theorem settle_succeeds (editing : Editing State Reply) :
    (OnFailure.settle .proceed editing).Succeeds := by
  intro state
  rcases editing.leads_or_fails state with ⟨reply, final, leads⟩ | ⟨error, fails⟩
  · exact ⟨reply, final, leads.settle _⟩
  · exact ⟨.failed error, _, fails.settle⟩

theorem traceFrom_of_leads {policy : OnFailure} {run : Edit → Editing State Reply}
    {edits : List Edit} {start final : State} {steps : List Step}
    (leads : (traceEdits policy run wrap edits).Leads start steps final) :
    (traceFrom policy run wrap start edits).result = .ok (wrap final, steps) := by
  obtain ⟨succeeded, rfl⟩ := leads
  have logged : ((traceEdits policy run wrap edits start).logged).result =
      .ok ((traceEdits policy run wrap edits start).state, steps) := by
    rw [Edited.logged, succeeded]
    rfl
  show (Logged.bind _ _).result = _
  rw [Logged.bind, logged]
  rfl

/-- A run that goes on after failures.  The invariant speaks of the edits that are still to
come, and of the state. -/
theorem traceEdits_reaches {run : Edit → Editing State Reply}
    {invariant : List Edit → State → Prop}
    (step : ∀ edit rest state, invariant (edit :: rest) state →
      invariant rest (run edit state).state)
    {edits : List Edit} {state : State} (holds : invariant edits state) :
    ∃ steps final, (traceEdits .proceed run wrap edits).Leads state steps final ∧
      invariant [] final ∧
        ∀ step ∈ steps, ∃ rest reached, invariant rest reached ∧ step.after = wrap reached := by
  induction edits generalizing state with
  | nil => exact ⟨[], state, leads_pure [] state, holds, by simp⟩
  | cons edit rest ih =>
    obtain ⟨reply, between, leads⟩ := settle_succeeds (run edit) state
    have reached : invariant rest between := by
      -- A failed edit leads somewhere, too: the invariant has to hold there.
      rw [← leads.state, state_settle]
      exact step edit rest state holds
    obtain ⟨steps, final, runs, ends, reaches⟩ := ih reached
    refine ⟨_, final, leads.bind ((leads_current _).bind (runs.bind (leads_pure _ _))),
      ends, ?_⟩
    rw [List.forall_mem_cons]
    exact ⟨⟨rest, between, reached, rfl⟩, reaches⟩

theorem traceFrom_reaches {run : Edit → Editing State Reply}
    (invariant : List Edit → State → Prop)
    (step : ∀ edit rest state, invariant (edit :: rest) state →
      invariant rest (run edit state).state)
    {property : Statement → Prop}
    (enough : ∀ rest state, invariant rest state → property (wrap state))
    {edits : List Edit} {start : State} (holds : invariant edits start) :
    ∃ final steps, (traceFrom .proceed run wrap start edits).result = .ok (final, steps) ∧
      ∀ statement ∈ final :: steps.map Step.after, property statement := by
  obtain ⟨steps, final, runs, ends, reaches⟩ := traceEdits_reaches step holds
  refine ⟨wrap final, steps, traceFrom_of_leads runs, ?_⟩
  rw [List.forall_mem_cons, List.forall_mem_map]
  refine ⟨enough [] final ends, fun step mem => ?_⟩
  obtain ⟨rest, reached, holds, same⟩ := reaches step mem
  exact same ▸ enough rest reached holds

/-- Where a run ends. -/
theorem traceFrom_foldl (wrap : State → Statement) (run : Edit → Editing State Reply)
    (edits : List Edit) (start : State) :
    ∃ steps, (traceFrom .proceed run wrap start edits).result =
      .ok (wrap (edits.foldl (fun state edit => (run edit state).state) start), steps) := by
  let step := fun state edit => (run edit state).state
  let leadsOn : List Edit → State → Prop :=
    fun rest state => rest.foldl step state = edits.foldl step start
  have kept : ∀ edit rest state, leadsOn (edit :: rest) state →
      leadsOn rest (run edit state).state := fun _ _ _ remains => remains
  have reaches : ∃ steps final, (traceEdits .proceed run wrap edits).Leads start steps final ∧
      leadsOn [] final ∧ _ := traceEdits_reaches kept rfl
  obtain ⟨steps, final, runs, ends, -⟩ := reaches
  obtain rfl : final = edits.foldl step start := ends
  exact ⟨steps, traceFrom_of_leads runs⟩

/-- The states of a run have a property that each of its edits keeps. -/
theorem traceFrom_keeps {run : Edit → Editing State Reply} (property : Statement → Prop)
    {edits : List Edit}
    (keeps : ∀ edit ∈ edits, (run edit).Keeps fun state => property (wrap state))
    {start : State} (holds : property (wrap start)) :
    ∃ final steps, (traceFrom .proceed run wrap start edits).result = .ok (final, steps) ∧
      ∀ statement ∈ final :: steps.map Step.after, property statement := by
  refine traceFrom_reaches
    (fun edits state =>
      (∀ edit ∈ edits, (run edit).Keeps fun state => property (wrap state)) ∧
        property (wrap state)) ?_ (fun _ _ both => both.2) ⟨keeps, holds⟩
  rintro edit rest state ⟨keeps, holds⟩
  rw [List.forall_mem_cons] at keeps
  exact ⟨keeps.2, keeps.1 state holds⟩

end Runs

end BoundSql.Editing
