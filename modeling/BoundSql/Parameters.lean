import BoundSql.Value
/-!
# Parameters

A statement binds values to placeholders, which are numbered from one in the order
in which their values are bound.  What has been bound is kept as the tokens of the
placeholders with their values, beside the number of the next placeholder.
-/

namespace BoundSql

def token (number : Nat) : String :=
  ":v" ++ toString number

@[simp] theorem toList_token (number : Nat) :
    (token number).toList = ':' :: 'v' :: Nat.toDigits 10 number := by
  simp [token, ← Nat.toList_repr]

theorem token_injective {first second : Nat} (same : token first = token second) :
    first = second := by
  have digits : Nat.toDigits 10 first = Nat.toDigits 10 second := by
    simpa using congrArg String.toList same
  rw [← Nat.ofDigitChars_ten_toDigits (n := first), digits, Nat.ofDigitChars_ten_toDigits]

/-- The values bound so far, each in normal form and under its token, and the
number of the next placeholder. -/
structure Parameters where
  next : Nat := 1
  entries : List (String × Value) := []

namespace Parameters

instance : Inhabited Parameters := ⟨{}⟩

def size (parameters : Parameters) : Nat :=
  parameters.next - 1

def isEmpty (parameters : Parameters) : Bool :=
  parameters.size == 0

def tokens (parameters : Parameters) : List String :=
  parameters.entries.map Prod.fst

def values (parameters : Parameters) : List Value :=
  parameters.entries.map Prod.snd

/-- Binds a value to the next placeholder, and gives the token of that. -/
def bind (parameters : Parameters) (value : Value) : Parameters × String :=
  ({ next := parameters.next + 1
     entries := parameters.entries ++ [(token parameters.next, value.normalized)] },
    token parameters.next)

def bindAll (parameters : Parameters) (values : List Value) : Parameters :=
  values.foldl (fun parameters value => (parameters.bind value).1) parameters

def get? (parameters : Parameters) (wanted : String) : Option Value :=
  (parameters.entries.find? fun entry => entry.1 == wanted).map Prod.snd

def equals (left right : Parameters) : Bool :=
  left.tokens == right.tokens &&
    (left.values.zip right.values).all fun (first, second) => first.equals second

def toJson (parameters : Parameters) : Json :=
  .object (parameters.entries.map fun (token, value) => (token, value.toJson))

/-- The given values with the tokens from a number on. -/
def number : (first : Nat) → List Value → List (String × Value)
  | _, [] => []
  | first, value :: rest => (token first, value) :: number (first + 1) rest

@[simp] theorem map_snd_number (first : Nat) (values : List Value) :
    (number first values).map Prod.snd = values := by
  induction values generalizing first with
  | nil => rfl
  | cons value rest ih => simp [number, ih]

@[simp] theorem map_fst_number (first : Nat) (values : List Value) :
    (number first values).map Prod.fst = (List.range' first values.length).map token := by
  induction values generalizing first with
  | nil => rfl
  | cons value rest ih => simp [number, List.range'_succ, ih]

@[simp] theorem length_number (first : Nat) (values : List Value) :
    (number first values).length = values.length := by
  induction values generalizing first with
  | nil => rfl
  | cons value rest ih => simp [number, ih]

@[simp] theorem bindAll_nil (parameters : Parameters) :
    parameters.bindAll [] = parameters := rfl

@[simp] theorem bindAll_cons (parameters : Parameters) (value : Value)
    (rest : List Value) :
    parameters.bindAll (value :: rest) = (parameters.bind value).1.bindAll rest := rfl

theorem bindAll_append (parameters : Parameters) (first second : List Value) :
    parameters.bindAll (first ++ second) =
      (parameters.bindAll first).bindAll second :=
  List.foldl_append

@[simp] theorem next_bindAll (parameters : Parameters) (values : List Value) :
    (parameters.bindAll values).next = parameters.next + values.length := by
  induction values generalizing parameters with
  | nil => rfl
  | cons value rest ih => simp [ih, bind]; omega

/-- Binding adds the values in normal form under the tokens that follow. -/
theorem entries_bindAll (parameters : Parameters) (values : List Value) :
    (parameters.bindAll values).entries =
      parameters.entries ++ number parameters.next (values.map Value.normalized) := by
  induction values generalizing parameters with
  | nil => simp [number]
  | cons value rest ih => simp [ih, bind, number]

end Parameters

end BoundSql
