import BoundSql.Parameters
/-!
# Reading placeholders

A reader that knows nothing of statements finds the placeholders in a text: where
`:v` and a digit stand, the placeholder goes on as long as there are digits.
-/

namespace BoundSql.Text

/-- What a reader of placeholders sees. -/
inductive Lexeme where
  | char (char : Char)
  | placeholder (token : String)
deriving DecidableEq

/-- The token of a lexeme that is a placeholder. -/
def Lexeme.token? : Lexeme → Option String
  | .char _ => none
  | .placeholder token => some token

/-- The placeholder with which a text begins. -/
def leadingPlaceholder? : List Char → Option String
  | ':' :: 'v' :: rest =>
    let digits := rest.takeWhile Char.isDigit
    if digits.isEmpty then none else some (String.ofList (':' :: 'v' :: digits))
  | _ => none

/-- The text of a lexeme, with a placeholder changed. -/
def Lexeme.write (change : String → String) : Lexeme → String
  | .char single => String.singleton single
  | .placeholder token => change token

/-- Reads a text after some characters that have been read already. -/
def lexemes : (skipped : Nat) → List Char → List Lexeme
  | _, [] => []
  | skipped + 1, _ :: rest => lexemes skipped rest
  | 0, char :: rest =>
    match leadingPlaceholder? (char :: rest) with
    | some token => .placeholder token :: lexemes (token.length - 1) rest
    | none => .char char :: lexemes 0 rest

/-- The placeholders of a text from left to right. -/
def placeholders (text : String) : List String :=
  (lexemes 0 text.toList).filterMap Lexeme.token?

/-- The text with each placeholder changed. -/
def replacePlaceholders (change : String → String) (text : String) : String :=
  String.join ((lexemes 0 text.toList).map (Lexeme.write change))

example : placeholders "a = :v12 AND b IN (:v3,:v, ::v4:v5x)" = [":v12", ":v3", ":v4", ":v5"] := by
  decide

/-! ### Steps of the reader -/

theorem lexemes_cons {char : Char} (different : char ≠ ':') (rest : List Char) :
    lexemes 0 (char :: rest) = .char char :: lexemes 0 rest := by
  have none : leadingPlaceholder? (char :: rest) = none := by
    unfold leadingPlaceholder?
    split
    · simp_all
    · rfl
  simp [lexemes, none]

theorem lexemes_append {chars : List Char} (colonless : ':' ∉ chars) (rest : List Char) :
    lexemes 0 (chars ++ rest) = chars.map .char ++ lexemes 0 rest := by
  induction chars with
  | nil => rfl
  | cons char chars ih =>
    simp only [List.mem_cons, not_or] at colonless
    simp [lexemes_cons (Ne.symm colonless.1), ih colonless.2]

theorem lexemes_length (chars rest : List Char) :
    lexemes chars.length (chars ++ rest) = lexemes 0 rest := by
  induction chars with
  | nil => rfl
  | cons char chars ih => simpa [lexemes] using ih

/-- A placeholder ends where the digits of its number end. -/
theorem lexemes_token_append (number : Nat) {rest : List Char}
    (ends : ¬ rest.head?.any Char.isDigit) :
    lexemes 0 ((token number).toList ++ rest) = .placeholder (token number) :: lexemes 0 rest := by
  have stops : rest.takeWhile Char.isDigit = [] := by
    cases rest with
    | nil => rfl
    | cons char rest => simpa [List.takeWhile_cons] using ends
  have digits : (Nat.toDigits 10 number ++ rest).takeWhile Char.isDigit =
      Nat.toDigits 10 number := by
    rw [List.takeWhile_append_of_pos, stops, List.append_nil]
    exact fun digit member => Nat.isDigit_of_mem_toDigits (by decide) (by decide) member
  have written : String.ofList (':' :: 'v' :: Nat.toDigits 10 number) = token number := by
    rw [← toList_token, String.ofList_toList]
  have leading : leadingPlaceholder? (':' :: 'v' :: (Nat.toDigits 10 number ++ rest)) =
      some (token number) := by
    simp only [leadingPlaceholder?, digits, written]
    exact if_neg (by simp [Nat.toDigits_ne_nil])
  have skipped : lexemes ((token number).length - 1) ('v' :: (Nat.toDigits 10 number ++ rest)) =
      lexemes 0 rest := by
    have := lexemes_length ('v' :: Nat.toDigits 10 number) rest
    simpa [← String.length_toList] using this
  simp [lexemes, leading, skipped]

end BoundSql.Text
