import BoundSql.Proofs.Editing
import BoundSql.Proofs.Failure.Trim
/-!
# Operations that leave no trace when they fail

An operation leaves no trace if its failure leaves the state as it was, and if what
remains of it when it succeeds leads to the same state.  The rules follow the way edits
are written: they check first, and then do what cannot fail.
-/

namespace BoundSql.Editing

variable {State Part Edit α β : Type}

/-- What remains of the operation is `again`, which depends on its reply. -/
structure LeavesNoTrace (editing : Editing State Reply)
    (again : Reply → Editing State Reply) : Prop where
  failed : editing.IsAtomic
  redone : ∀ {state reply final}, editing.Leads state reply final →
    reply.isFailure = false ∧ ∃ other, (again reply).Leads state other final

/-- The operation cannot fail, and what remains of it leads to the same state. -/
def IsRedone (editing : Editing State α) (again : α → Editing State β) : Prop :=
  ∀ state, ∃ value other final, editing.Leads state value final ∧
    (again value).Leads state other final

theorem IsRedone.succeeds {editing : Editing State α} {again : α → Editing State β}
    (redone : editing.IsRedone again) : editing.Succeeds := by
  intro state
  obtain ⟨value, _, final, leads, _⟩ := redone state
  exact ⟨value, final, leads⟩

namespace LeavesNoTrace

theorem done (edit : State → State) : LeavesNoTrace (.done edit) fun _ => .done edit where
  failed := by
    rintro state error ⟨⟩
  redone := by
    rintro state _ _ ⟨⟨⟩, ⟨⟩⟩
    exact ⟨rfl, .done, rfl, rfl⟩

theorem fail (error : Error) :
    LeavesNoTrace (.fail error : Editing State Reply) fun _ => .fail error where
  failed := fun _ _ _ => rfl
  redone := by
    rintro state reply final ⟨⟨⟩, -⟩

/-- A reply that tells no failure. -/
theorem reply {reply : Reply} (tells : reply.isFailure = false) :
    LeavesNoTrace (pure reply : Editing State Reply) fun _ => pure reply where
  failed := (succeeds_pure reply).isAtomic
  redone := by
    rintro state _ _ ⟨⟨⟩, ⟨⟩⟩
    exact ⟨tells, reply, leads_pure reply state⟩

/-- An outcome whose replies tell no failure. -/
theorem answer {outcome : Except Error Reply}
    (tells : ∀ reply, outcome = .ok reply → reply.isFailure = false) :
    LeavesNoTrace (outcome : Editing State Reply) fun _ => outcome where
  failed := fun _ _ _ => rfl
  redone := by
    rintro state reply _ ⟨succeeded, ⟨⟩⟩
    exact ⟨tells reply succeeded, reply, succeeded, rfl⟩

theorem bind {first : Editing State α} {next : α → Editing State Reply}
    {again : α → Reply → Editing State Reply} (failed : (first >>= next).IsAtomic)
    (further : ∀ value, LeavesNoTrace (next value) (again value)) :
    LeavesNoTrace (first >>= next) fun reply => first >>= fun value => again value reply where
  failed := failed
  redone := by
    intro state reply final leads
    obtain ⟨value, between, before, after⟩ := leads.of_bind
    obtain ⟨tells, other, leads⟩ := (further value).redone after
    exact ⟨tells, other, before.bind leads⟩

/-- What comes after a check may fail. -/
theorem check {first : Editing State α} {next : α → Editing State Reply}
    {again : α → Reply → Editing State Reply} (checks : first.Checks)
    (further : ∀ value, LeavesNoTrace (next value) (again value)) :
    LeavesNoTrace (first >>= next) fun reply => first >>= fun value => again value reply :=
  bind (checks.bind_isAtomic fun value => (further value).failed) further

/-- What comes after a change must not fail. -/
theorem change {first : Editing State α} {next : α → Editing State Reply}
    {again : α → Reply → Editing State Reply} (atomic : first.IsAtomic)
    (succeeds : ∀ value, (next value).Succeeds)
    (further : ∀ value, LeavesNoTrace (next value) (again value)) :
    LeavesNoTrace (first >>= next) fun reply => first >>= fun value => again value reply :=
  bind (atomic.bind_succeeds succeeds) further

end LeavesNoTrace

/-! ### Edits that lead to others -/

section Inner

theorem IsRedone.within_succeeds {editing : Editing Part (List Reply)}
    {again : List Reply → Editing Part (List Reply)} (part : State → Part)
    (replace : State → Part → State) (redone : editing.IsRedone again) :
    Succeeds do
      let replies ← .within part replace editing
      return Reply.within replies :=
  redone.succeeds.within.bind fun _ => succeeds_pure _

/-- Edits of a part. -/
theorem IsRedone.within {editing : Editing Part (List Reply)}
    {again : List Reply → Editing Part (List Reply)} (part : State → Part)
    (replace : State → Part → State) (redone : editing.IsRedone again) :
    LeavesNoTrace
      (do
        let replies ← .within part replace editing
        return .within replies)
      fun reply => do
        let replies ← .within part replace (again reply.inner)
        return .within replies where
  failed := (redone.within_succeeds part replace).isAtomic
  redone := by
    intro state reply final leads
    obtain ⟨replies, others, inner, first, second⟩ := redone (part state)
    obtain ⟨rfl, rfl⟩ := leads.unique (first.within.bind (leads_pure _ _))
    exact ⟨rfl, _, second.within.bind (leads_pure _ _)⟩

/-- Edits of a copy. -/
theorem IsRedone.copy {editing : Editing State (List Reply)}
    {again : List Reply → Editing State (List Reply)} (wrap : State → Statement)
    (redone : editing.IsRedone again) :
    LeavesNoTrace
      (do
        let state ← .current
        let (edited, replies) ← .onCopy editing
        return .copied replies (wrap state) (wrap edited))
      fun reply => do
        let state ← .current
        let (edited, replies) ← .onCopy (again reply.inner)
        return .copied replies (wrap state) (wrap edited) := by
  refine .check (fun _ => rfl) fun kept => ⟨?_, ?_⟩
  · exact Checks.bind_isAtomic (fun _ => rfl) fun _ => (succeeds_pure _).isAtomic
  · intro state reply final leads
    obtain ⟨replies, others, edited, first, second⟩ := redone state
    obtain ⟨rfl, rfl⟩ := leads.unique (first.onCopy.bind (leads_pure _ _))
    exact ⟨rfl, _, second.onCopy.bind (leads_pure _ _)⟩

end Inner

/-! ### Edits one after the other -/

section Sequences

/-- An edit that leaves no trace fails where it is, or it succeeds as what remains of it
does. -/
theorem LeavesNoTrace.settle {edit : Editing State Reply}
    {again : Reply → Editing State Reply} (leaves : LeavesNoTrace edit again)
    (state : State) :
    (∃ error, (OnFailure.settle .proceed edit).Leads state (.failed error) state) ∨
    ∃ reply other final, (OnFailure.settle .proceed edit).Leads state reply final ∧
      reply.isFailure = false ∧
        ∀ policy : OnFailure, (policy.settle (again reply)).Leads state other final := by
  rcases edit.leads_or_fails state with ⟨reply, final, leads⟩ | ⟨error, fails⟩
  · obtain ⟨tells, other, redone⟩ := leaves.redone leads
    exact .inr ⟨reply, other, final, leads.settle _, tells, fun policy => redone.settle policy⟩
  · have settled := fails.settle
    rw [leaves.failed state error fails] at settled
    exact .inl ⟨error, settled⟩

theorem isRedone_nil {again : List Reply → Editing State (List Reply)}
    (nothing : again [] = pure []) :
    IsRedone (pure [] : Editing State (List Reply)) again :=
  fun state => ⟨[], [], state, leads_pure [] state, nothing ▸ leads_pure [] state⟩

/-- An edit before others: what remains of all is what remains of the edit, if it does not
fail, before what remains of the others. -/
theorem LeavesNoTrace.cons {edit : Editing State Reply}
    {editAgain : Reply → Editing State Reply} {rest : Editing State (List Reply)}
    {restAgain again : List Reply → Editing State (List Reply)} (policy : OnFailure)
    (leaves : LeavesNoTrace edit editAgain) (redone : rest.IsRedone restAgain)
    (remains : ∀ reply replies, again (reply :: replies) =
      if reply.isFailure then restAgain replies
      else do
        let reply ← policy.settle (editAgain reply)
        let replies ← restAgain replies
        return reply :: replies) :
    IsRedone
      (do
        let reply ← OnFailure.settle .proceed edit
        let replies ← rest
        return reply :: replies)
      again := by
  intro state
  rcases leaves.settle state with
    ⟨error, failed⟩ | ⟨reply, other, between, before, tells, same⟩
  · -- What is left out changed nothing, so the others start where it did.
    obtain ⟨replies, others, final, first, second⟩ := redone state
    refine ⟨_, others, final, failed.bind (first.bind (leads_pure _ _)), ?_⟩
    rw [remains]
    exact second
  · obtain ⟨replies, others, final, first, second⟩ := redone between
    refine ⟨_, other :: others, final, before.bind (first.bind (leads_pure _ _)), ?_⟩
    rw [remains, tells]
    exact (same policy).bind (second.bind (leads_pure _ _))

/-- A run cannot fail, and what remains of its edits goes through the states that it
reaches by them. -/
theorem traceEdits_redone {run : OnFailure → Edit → Editing State Reply}
    {trim : Reply → Edit → Edit} {trimAll : List Reply → List Edit → List Edit}
    {policy : OnFailure} (wrap : State → Statement)
    (leaves : ∀ edit, LeavesNoTrace (run .proceed edit) fun reply =>
      run policy (trim reply edit))
    (trimAll_nil : trimAll [] [] = [])
    (trimAll_cons : ∀ reply replies edit rest, trimAll (reply :: replies) (edit :: rest) =
      if reply.isFailure then trimAll replies rest
      else trim reply edit :: trimAll replies rest)
    (edits : List Edit) (state : State) :
    ∃ steps others final,
      (traceEdits .proceed (run .proceed) wrap edits).Leads state steps final ∧
      (traceEdits policy (run policy) wrap (trimAll (steps.map Step.reply) edits)).Leads
        state others final ∧
      others.map Step.after =
        (steps.filter fun step => !step.reply.isFailure).map Step.after := by
  induction edits generalizing state with
  | nil =>
    refine ⟨[], [], state, leads_pure [] state, ?_, rfl⟩
    rw [List.map_nil, trimAll_nil]
    exact leads_pure [] state
  | cons edit rest ih =>
    rcases (leaves edit).settle state with
      ⟨error, failed⟩ | ⟨reply, other, between, before, tells, same⟩
    · obtain ⟨steps, others, final, first, second, after⟩ := ih state
      refine ⟨_, others, final,
        failed.bind ((leads_current _).bind (first.bind (leads_pure _ _))), ?_, after⟩
      rw [List.map_cons, trimAll_cons]
      exact second
    · obtain ⟨steps, others, final, first, second, after⟩ := ih between
      refine ⟨_, { reply := other, after := wrap between } :: others, final,
        before.bind ((leads_current _).bind (first.bind (leads_pure _ _))), ?_, ?_⟩
      · rw [List.map_cons, trimAll_cons, tells]
        exact (same policy).bind ((leads_current _).bind (second.bind (leads_pure _ _)))
      · simp [tells, after]

end Sequences

end BoundSql.Editing
