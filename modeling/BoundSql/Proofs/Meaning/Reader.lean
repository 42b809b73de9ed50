import BoundSql.Proofs.Meaning.Word
/-!
# Reading conditions

A reader that knows nothing of statements works out the truth of a text.  NOT binds
closer than AND, and AND closer than OR.  The reader is given the atoms of the text
in the order in which it is to meet them, each with its truth.  An operand that is
not the next atom must be a text between parentheses, which is read in the same way.
-/

namespace BoundSql

open Text (Word readWords outerWords)

/-- The atoms that are still to come, each with its truth. -/
abbrev Legend := List (String × Bool)

/-- A reader takes the atoms that it meets from the legend. -/
abbrev Reader := StateT Legend Option

namespace Reader

def parenthesized (group : List Char → Reader Bool) : List Word → Reader Bool
  | [.group inner] => group inner
  | _ => failure

/-- An operand is the next atom, or else stands between parentheses. -/
def operand (group : List Char → Reader Bool) (words : List Word) : Reader Bool := fun legend =>
  match legend with
  | [] => parenthesized group words []
  | (atom, truth) :: rest =>
    if outerWords atom = words then some (truth, rest)
    else parenthesized group words legend

/-- Any number of NOT before an operand. -/
def factor (group : List Char → Reader Bool) : List Word → Reader Bool
  | [] => failure
  | word :: rest =>
    if word = .not then not <$> factor group rest
    else operand group (word :: rest)

/-- Factors with AND between them. -/
def term (group : List Char → Reader Bool) (words : List Word) : Reader Bool := do
  let factors ← (words.splitOn (.and)).mapM (factor group)
  return factors.all id

/-- Terms with OR between them. -/
def terms (group : List Char → Reader Bool) (words : List Word) : Reader Bool := do
  let terms ← (words.splitOn (.or)).mapM (term group)
  return terms.any id

/-- Reads a text and what is between its parentheses down to some depth.  A text
without words says nothing. -/
def text : (depth : Nat) → List Char → Reader Bool
  | 0, _ => failure
  | depth + 1, chars =>
    match readWords 0 [] chars with
    | [] => return true
    | word :: rest => terms (text depth) (word :: rest)

end Reader

/-- The truth of a text in which a reader meets the atoms of a legend, and meets them
all. -/
def Legend.truth? (legend : Legend) (text : String) : Option Bool :=
  match Reader.text (text.length + 1) text.toList legend with
  | some (truth, []) => some truth
  | _ => none

example : Legend.truth? [("a", true), ("b", true), ("(c)", false)] "a OR b AND NOT NOT (c)" =
    some true := by
  decide

example : Legend.truth? [("a", true), ("b", true), ("c", false)] "(a OR b) AND NOT NOT (c)" =
    some false := by
  decide

namespace Reader

/-- A reader takes just these atoms from any legend that begins with them, and has a
result. -/
def Yields {Result : Type} (reader : Reader Result) (legend : Legend) (result : Result) : Prop :=
  ∀ rest, reader (legend ++ rest) = some (result, rest)

variable {First Second : Type} {group : List Char → Reader Bool}

theorem yields_pure (result : First) : Yields (pure result) [] result :=
  fun _ => rfl

theorem Yields.bind {reader : Reader First} {next : First → Reader Second}
    {legend further : Legend} {first : First} {second : Second}
    (yields : reader.Yields legend first) (continues : (next first).Yields further second) :
    (reader >>= next).Yields (legend ++ further) second := by
  intro rest
  change (reader (legend ++ further ++ rest)).bind _ = _
  rw [List.append_assoc, yields]
  exact continues rest

theorem Yields.map {reader : Reader First} {legend : Legend} {first : First}
    (yields : reader.Yields legend first) (change : First → Second) :
    (change <$> reader).Yields legend (change first) := by
  rw [map_eq_pure_bind, ← List.append_nil legend]
  exact yields.bind (yields_pure (change first))

theorem factor_not (words : List Word) :
    factor group (.not :: words) = not <$> factor group words := by
  simp [factor]

theorem term_intercalate {factors : List (List Word)} (nonempty : factors ≠ [])
    (separate : ∀ words ∈ factors, .and ∉ words) :
    term group ([.and].intercalate factors) = do
      return (← factors.mapM (factor group)).all id := by
  rw [term, List.splitOn_intercalate _ separate nonempty]

theorem terms_intercalate {operands : List (List Word)} (nonempty : operands ≠ [])
    (separate : ∀ words ∈ operands, .or ∉ words) :
    terms group ([.or].intercalate operands) = do
      return (← operands.mapM (term group)).any id := by
  rw [terms, List.splitOn_intercalate _ separate nonempty]

/-- A text without AND has one factor. -/
theorem term_eq_factor {words : List Word} (single : .and ∉ words) :
    term group words = factor group words := by
  have one := @term_intercalate group [words] (by simp) (by simpa using single)
  simpa using one

/-- A text without OR has one term. -/
theorem terms_eq_term {words : List Word} (single : .or ∉ words) :
    terms group words = term group words := by
  have one := @terms_intercalate group [words] (by simp) (by simpa using single)
  simpa using one

end Reader

end BoundSql
