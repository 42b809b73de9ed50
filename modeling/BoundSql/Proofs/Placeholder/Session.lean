import BoundSql.Proofs.Placeholder.Inlining
/-!
# Sessions

One set of parameters can serve a whole session.  Single values are bound to it,
statements are compiled with it, on from what is bound or after dropping that, and
it is emptied.

A statement that cannot be compiled leaves behind the values before the failure.
Even so the number of the next placeholder and the list of what is bound stay in
step: in each state of a session the parameters are what binding the values since
they were last emptied, one after another, would give.
-/

namespace BoundSql

/-- Neither a truth value nor the empty text is in normal form. -/
def Value.IsNormal : Value → Prop
  | .bool _ => False
  | .text value => value ≠ ""
  | _ => True

theorem Value.isNormal_normalized (value : Value) : value.normalized.IsNormal := by
  cases value with
  | text value =>
    by_cases empty : value = ""
    · simp [normalized, empty, IsNormal]
    · simp [normalized, empty, IsNormal]
  | _ => exact trivial

namespace Parameters

/-- What a session can do with its parameters. -/
inductive Use where
  | bind (value : Value)
  | reset
  | compile (statement : Statement) (dialect : Dialect) (continues : Bool)

namespace Use

/-- Whether what is bound is still there after the use. -/
def continues : Use → Bool
  | .bind _ => true
  | .reset => false
  | .compile _ _ continues => continues

/-- The values that are bound in the use, for a statement as far as its writing
comes. -/
def values : Use → List Value
  | .bind value => [value]
  | .reset => []
  | .compile statement _ _ => statement.draft.values

/-- The values bound since the parameters were last emptied, given those before the
use. -/
def boundAfter (bound : List Value) (use : Use) : List Value :=
  (if use.continues then bound else []) ++ use.values

end Use

/-- The parameters after a use. -/
def use (parameters : Parameters) : Use → Parameters
  | .bind value => (parameters.bind value).1
  | .reset => {}
  | .compile statement dialect continues =>
    (statement.compileWith dialect parameters continues).1

/-- The parameters after a session. -/
def run (uses : List Use) : Parameters :=
  uses.foldl use {}

/-- The values bound in a session since the parameters were last emptied. -/
def bound (uses : List Use) : List Value :=
  uses.foldl Use.boundAfter []

/-- The parameters hold the given values, in normal form and under the tokens from
the first on. -/
structure Holds (parameters : Parameters) (bound : List Value) : Prop where
  size_eq : parameters.size = bound.length
  entries_length : parameters.entries.length = parameters.size
  tokens_eq : parameters.tokens = (List.range' 1 parameters.size).map token
  tokens_nodup : parameters.tokens.Nodup
  isNormal : ∀ value ∈ parameters.values, value.IsNormal
  get?_token : ∀ index,
    parameters.get? (token (1 + index)) = bound[index]?.map Value.normalized

/-- A use binds its values, on from the parameters or from empty ones. -/
theorem use_eq (parameters : Parameters) (use : Use) :
    parameters.use use =
      (if use.continues then parameters else {}).bindAll use.values := by
  cases use with
  | bind value => rfl
  | reset => rfl
  | compile statement dialect continues =>
    simp only [Parameters.use, Statement.compileWith, Statement.outcome_text]
    rfl

/-- A use that does not empty the parameters only adds to what they hold. -/
theorem entries_prefix_use (parameters : Parameters) {use : Use}
    (continues : use.continues = true) :
    parameters.entries <+: (parameters.use use).entries := by
  rw [use_eq, if_pos continues, entries_bindAll]
  exact List.prefix_append ..

/-- A use of parameters to which values are bound from the first on leaves such
parameters. -/
theorem use_bindAll (bound : List Value) (use : Use) :
    (({} : Parameters).bindAll bound).use use =
      ({} : Parameters).bindAll (use.boundAfter bound) := by
  rw [use_eq]
  cases continues : use.continues with
  | true => simp [Use.boundAfter, continues, bindAll_append]
  | false => simp [Use.boundAfter, continues]

/-- By induction on the uses; each starts from parameters to which values are bound
from the first on. -/
theorem foldl_use_bindAll (uses : List Use) (bound : List Value) :
    uses.foldl use (({} : Parameters).bindAll bound) =
      ({} : Parameters).bindAll (uses.foldl Use.boundAfter bound) := by
  induction uses generalizing bound with
  | nil => rfl
  | cons use rest ih =>
    rw [List.foldl_cons, use_bindAll, ih]
    rfl

theorem run_eq (uses : List Use) : run uses = ({} : Parameters).bindAll (bound uses) :=
  foldl_use_bindAll uses []

theorem holds_bindAll (bound : List Value) : (({} : Parameters).bindAll bound).Holds bound := by
  have size : (({} : Parameters).bindAll bound).size = bound.length := by
    simp [Parameters.size]
  have tokens : (({} : Parameters).bindAll bound).tokens =
      (List.range' 1 (({} : Parameters).bindAll bound).size).map token := by
    rw [size, tokens_bindAll]
    rfl
  constructor
  case size_eq => exact size
  case entries_length => simp [size, entries_bindAll]
  case tokens_eq => exact tokens
  case tokens_nodup =>
    rw [tokens]
    exact nodup_tokens ..
  case isNormal =>
    intro value mem
    obtain ⟨given, -, rfl⟩ : ∃ given ∈ bound, given.normalized = value := by
      simpa [Parameters.values, entries_bindAll] using mem
    exact given.isNormal_normalized
  case get?_token => exact get?_bindAll bound

/-- Whatever a session did, its parameters hold what was bound since they were last
emptied, and only emptying them takes anything away. -/
theorem run_holds (uses : List Use) :
    (run uses).Holds (bound uses) ∧
      ∀ use : Use, use.continues = true →
        (run uses).entries <+: ((run uses).use use).entries := by
  constructor
  · rw [run_eq]
    exact holds_bindAll (bound uses)
  · intro use continues
    exact entries_prefix_use (run uses) continues

/-- The EXISTS lacks its table, so the statement cannot be compiled; the value of its
comparison stays bound. -/
example :
    (run
        [.bind (.bool true),
          .compile
            (.delete
              { table := { name := "t" }
                filter := some
                  { comparisons :=
                      [{ subject := { name := "a" }
                         relation := .equals
                         target := .value (.text "") }]
                    existences := [{ select := { link := {} }, negated := false }] } })
            .generic true,
          .bind (.integer 7)]).entries =
      [(":v1", .integer 1), (":v2", .null), (":v3", .integer 7)] := by
  decide +kernel

end Parameters

end BoundSql
