import BoundSql.Binding.Basic
/-!
# What a computation gives

A property of all results of a computation, whatever it is that was bound before.
-/

namespace BoundSql.Binding

variable {First Second Item : Type}

/-- A computation gives only results with a property, if it gives any. -/
def Gives (binding : Binding First) (holds : First → Prop) : Prop :=
  ∀ parameters result after, binding parameters = .ok result after → holds result

variable {holds : First → Prop}

theorem gives_true (binding : Binding First) : binding.Gives fun _ => True :=
  fun _ _ _ _ => trivial

theorem gives_pure {result : First} (true : holds result) :
    Gives (pure result) holds := by
  intro parameters result' after given
  cases given
  exact true

theorem Gives.bind {binding : Binding First} {next : First → Binding Second}
    {further : Second → Prop} (gives : binding.Gives holds)
    (continues : ∀ result, holds result → (next result).Gives further) :
    (binding >>= next).Gives further := by
  intro parameters result after given
  change EStateM.bind binding next parameters = _ at given
  unfold EStateM.bind at given
  split at given
  · rename_i first between began
    exact continues first (gives parameters first between began) between result after given
  · cases given

theorem Gives.map {binding : Binding First} {change : First → Second} {further : Second → Prop}
    (gives : binding.Gives fun result => further (change result)) :
    (change <$> binding).Gives further := by
  rw [map_eq_pure_bind]
  exact gives.bind fun result holds => gives_pure holds

theorem map_eq_ok {binding : Binding First} {change : First → Second}
    {parameters after : Parameters} {result : Second}
    (given : (change <$> binding) parameters = .ok result after) :
    ∃ first, binding parameters = .ok first after ∧ change first = result := by
  change EStateM.map change binding parameters = _ at given
  unfold EStateM.map at given
  split at given
  · rename_i first between began
    cases given
    exact ⟨first, began, rfl⟩
  · cases given

theorem gives_mapM {step : Item → Binding First} {items : List Item}
    (gives : ∀ item ∈ items, (step item).Gives holds) :
    (items.mapM step).Gives fun results => ∀ result ∈ results, holds result := by
  induction items with
  | nil => exact gives_pure (by simp)
  | cons item rest ih =>
    rw [List.mapM_cons]
    exact (gives item (by simp)).bind fun first own =>
      (ih fun item member => gives item (by simp [member])).bind fun others all =>
        gives_pure (by simpa using ⟨own, all⟩)

/-- What comes after a computation depends only on what it can give. -/
theorem Gives.bind_congr {binding : Binding First} {next other : First → Binding Second}
    (gives : binding.Gives holds) (agree : ∀ result, holds result → next result = other result) :
    binding >>= next = binding >>= other := by
  funext parameters
  change EStateM.bind binding next parameters = EStateM.bind binding other parameters
  unfold EStateM.bind
  split
  · rename_i first between began
    rw [agree first (gives parameters first between began)]
  · rfl

end BoundSql.Binding
