import BoundSql.Log
/-!
# Editing in place

The operations by which a statement is put together change it in its place, report
events and can fail.  Nothing is taken back: what an operation has changed before it
fails stays changed.
-/

namespace BoundSql

/-- What an operation leaves: the state and the events as far as the operation came, and
its result. -/
structure Edited (State α : Type) where
  state : State
  events : List Event := []
  result : Except Error α

/-- An operation on a state that is changed in its place. -/
def Editing (State α : Type) : Type := State → Edited State α

/-- The state with the result, if there is one. -/
def Edited.logged {State α : Type} (edited : Edited State α) : Logged (State × α) :=
  { events := edited.events, result := edited.result.map (edited.state, ·) }

/-- The state that an operation leaves, if it succeeds. -/
def Edited.outcome {State : Type} (edited : Edited State Unit) : Except Error State :=
  edited.result.map fun _ => edited.state

namespace Editing

variable {State Part α β : Type}

protected def pure (value : α) : Editing State α :=
  fun state => { state, result := .ok value }

protected def bind (first : Editing State α) (next : α → Editing State β) :
    Editing State β := fun state =>
  match first state with
  | { state, events, result := .error error } => { state, events, result := .error error }
  | { state, events, result := .ok value } =>
    let further := next value state
    { further with events := events ++ further.events }

instance : Monad (Editing State) where
  pure := Editing.pure
  bind := Editing.bind

/-- What is worked out beside the state leaves it as it is. -/
instance : MonadLift Logged (Editing State) where
  monadLift outcome := fun state =>
    { state, events := outcome.events, result := outcome.result }

def fail (error : Error) : Editing State α :=
  fun state => { state, result := .error error }

def current : Editing State State :=
  fun state => { state, result := .ok state }

def change (edit : State → State) : Editing State Unit :=
  fun state => { state := edit state, result := .ok () }

/-- An operation on a part of the state, which is put back as far as the operation
came. -/
def within (part : State → Part) (replace : State → Part → State)
    (editing : Editing Part α) : Editing State α := fun state =>
  let edited := editing (part state)
  { edited with state := replace state edited.state }

/-- An operation on a copy of the state, which is given back with the result. -/
def onCopy (editing : Editing State α) : Editing State (State × α) := fun state =>
  let edited := editing state
  { state, events := edited.events, result := edited.result.map (edited.state, ·) }

theorem current_bind (next : State → Editing State β) (state : State) :
    (current >>= next) state = next state state := rfl

/-- What is worked out without failing only hands on its result. -/
theorem ok_bind (value : α) (next : α → Editing State β) :
    (do
      let result ← (Except.ok value : Except Error α)
      next result : Editing State β) = next value := rfl

end Editing

end BoundSql
