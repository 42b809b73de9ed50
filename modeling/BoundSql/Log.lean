import BoundSql.Error
/-!
# Log events

What is reported while statements are built and compiled, and computations that
report events.
-/

namespace BoundSql

inductive Level where
  | trace
  | debug
  | info
deriving DecidableEq

def Level.rank : Level → Nat
  | .trace => 0
  | .debug => 1
  | .info => 2

inductive Event where
  /-- A join was ignored, because one of the same name is registered. -/
  | ignoredJoin (table : String)
  /-- A statement was compiled.  Its text may have been cut. -/
  | compiled (kind : Kind) (dialect sql : String) (parameterCount : Nat)
deriving DecidableEq

namespace Event

def level : Event → Level
  | .ignoredJoin _ => .trace
  | .compiled .. => .debug

def message : Event → String
  | .ignoredJoin _ => "join already registered, keeping existing"
  | .compiled .. => "compiled statement"

def isSeenAt (level : Level) (event : Event) : Bool :=
  level.rank ≤ event.level.rank

end Event

/-- What a computation gives that reports events and can fail.  The events before
a failure remain. -/
structure Logged (α : Type) where
  events : List Event := []
  result : Except Error α

namespace Logged

protected def pure {α : Type} (value : α) : Logged α :=
  { result := .ok value }

protected def bind {α β : Type} (first : Logged α) (next : α → Logged β) : Logged β :=
  match first.result with
  | .error error => { events := first.events, result := .error error }
  | .ok value =>
    { events := first.events ++ (next value).events, result := (next value).result }

instance : Monad Logged where
  pure := Logged.pure
  bind := Logged.bind

instance : MonadLift (Except Error) Logged where
  monadLift result := { result }

def report (event : Option Event) : Logged Unit :=
  { events := event.toList, result := .ok () }

@[simp] theorem pure_bind {α β : Type} (value : α) (next : α → Logged β) :
    (pure value >>= next) = next value := rfl

/-- Computations one after the other give a result only if each of them does. -/
theorem ok_of_bind {α β : Type} {first : Logged α} {next : α → Logged β} {result : β}
    (succeeded : (first >>= next).result = .ok result) :
    ∃ value, first.result = .ok value ∧ (next value).result = .ok result := by
  change (Logged.bind first next).result = .ok result at succeeded
  rw [Logged.bind] at succeeded
  split at succeeded
  · cases succeeded
  · next value given => exact ⟨value, given, succeeded⟩

end Logged

end BoundSql
