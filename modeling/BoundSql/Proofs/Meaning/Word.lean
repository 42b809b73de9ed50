import BoundSql.Text.Blank
import BoundSql.Text.Parentheses
import Mathlib.Algebra.Ring.Nat
/-!
# Words outside parentheses

A reader of conditions sees the words of a text that are outside all parentheses, and
what is inside a pair of parentheses as one word.  Blanks end a word, and so does a
parenthesis.  Three words connect others, in letters of either case.
-/

namespace BoundSql.Text

/-- What a reader sees as one word. -/
inductive Word where
  | and
  | or
  | not
  | plain (chars : List Char)
  /-- What stands between an outer parenthesis and the one that closes it. -/
  | group (inner : List Char)
deriving DecidableEq

/-- The word that some characters spell. -/
def Word.ofChars (chars : List Char) : Word :=
  match String.ofList (chars.map Char.toUpper) with
  | "AND" => .and
  | "OR" => .or
  | "NOT" => .not
  | _ => .plain chars

/-- Whether a word connects others. -/
def Word.connects : Word → Bool
  | .and | .or | .not => true
  | .plain _ | .group _ => false

/-- The word read so far, if there is one. -/
def Word.finish (chars : List Char) : List Word :=
  if chars.isEmpty then [] else [.ofChars chars]

/-- Reads words, so many parentheses deep and with some characters of a word read
already. -/
def readWords : (depth : Nat) → (current : List Char) → List Char → List Word
  | 0, current, [] => Word.finish current
  | _ + 1, current, [] => [.plain ('(' :: current)]
  | 0, current, char :: rest =>
    if char = '(' then Word.finish current ++ readWords 1 [] rest
    else if isBlank char then Word.finish current ++ readWords 0 [] rest
    else readWords 0 (current ++ [char]) rest
  | depth + 1, current, char :: rest =>
    if char = '(' then readWords (depth + 2) (current ++ [char]) rest
    else if char = ')' then
      match depth with
      | 0 => .group current :: readWords 0 [] rest
      | outer + 1 => readWords (outer + 1) (current ++ [char]) rest
    else readWords (depth + 1) (current ++ [char]) rest

/-- The words of a text outside all parentheses. -/
def outerWords (text : String) : List Word :=
  readWords 0 [] text.toList

example : outerWords "f(a (b))  not(c) d" =
    [.plain ['f'], .group "a (b)".toList, .not, .group ['c'], .plain ['d']] := by
  decide

/-! ### Parts of a text -/

/-- A blank outside parentheses separates the words before it from those after it. -/
theorem readWords_append_blank {depth : Nat} {current chars rest : List Char} {blank : Char}
    (nested : nesting depth chars = some 0) (isBlank : isBlank blank) :
    readWords depth current (chars ++ blank :: rest) =
      readWords depth current chars ++ readWords 0 [] rest := by
  have plain : blank ≠ '(' := by
    rintro rfl
    exact absurd isBlank (by decide)
  induction chars generalizing depth current with
  | nil =>
    obtain rfl : depth = 0 := by simpa [nesting] using nested
    simp [readWords, plain, isBlank]
  | cons char chars ih =>
    simp only [nesting] at nested
    split at nested
    · cases depth <;> simp [readWords, *]
    · split at nested
      · cases depth with
        | zero => simp at nested
        | succ outer => cases outer <;> simp [readWords, *]
      · cases depth <;> simp only [List.cons_append, readWords, if_false, *]
        split <;> simp [*]

/-- What is balanced between two parentheses is one word. -/
theorem readWords_group {depth : Nat} {current inner rest : List Char}
    (nested : nesting depth inner = some 0) :
    readWords (depth + 1) current (inner ++ ')' :: rest) =
      .group (current ++ inner) :: readWords 0 [] rest := by
  induction inner generalizing depth current with
  | nil =>
    obtain rfl : depth = 0 := by simpa [nesting] using nested
    simp [readWords]
  | cons char chars ih =>
    simp only [nesting] at nested
    split at nested
    · simp [readWords, *]
    · split at nested
      · cases depth with
        | zero => simp at nested
        | succ outer => simp [readWords, *]
      · simp [readWords, *]

theorem outerWords_append {first second : String} {blank : Char} (balanced : isBalanced first)
    (isBlank : isBlank blank) :
    outerWords (first ++ String.singleton blank ++ second) =
      outerWords first ++ outerWords second := by
  have nested := nesting_of_isBalanced balanced 0
  simp [outerWords, readWords_append_blank nested isBlank]

theorem outerWords_group {inner : String} (balanced : isBalanced inner) :
    outerWords ("(" ++ inner ++ ")") = [.group inner.toList] := by
  have nested := nesting_of_isBalanced balanced 0
  have opened := @readWords_group 0 [] inner.toList [] nested
  simpa [outerWords, readWords, Word.finish] using opened

/-! ### Lengths -/

/-- How many characters a word takes in a text at least. -/
def Word.length : Word → Nat
  | .or => 2
  | .and | .not => 3
  | .plain chars => chars.length
  | .group inner => inner.length + 2

theorem Word.length_ofChars (chars : List Char) : (Word.ofChars chars).length = chars.length := by
  have spelled : ∀ word : String, String.ofList (chars.map Char.toUpper) = word →
      word.length = chars.length := by
    rintro _ rfl
    simp
  unfold ofChars
  split
  · exact spelled "AND" ‹_›
  · exact spelled "OR" ‹_›
  · exact spelled "NOT" ‹_›
  · rfl

theorem length_readWords (depth : Nat) (current chars : List Char) :
    ((readWords depth current chars).map Word.length).sum ≤
      current.length + chars.length + if depth = 0 then 0 else 1 := by
  have finish : ∀ current, ((Word.finish current).map Word.length).sum = current.length := by
    intro current
    unfold Word.finish
    split <;> simp_all [Word.length_ofChars]
  induction chars generalizing depth current with
  | nil => cases depth <;> simp [readWords, Word.length, finish]
  | cons char chars ih =>
    cases depth with
    | zero =>
      have fresh := ih 0 []
      have opened := ih 1 []
      have further := ih 0 (current ++ [char])
      simp only [readWords]
      split
      · simp [finish] at opened ⊢
        omega
      · split
        · simp [finish] at fresh ⊢
          omega
        · simp at further ⊢
          omega
    | succ depth =>
      have fresh := ih 0 []
      have deeper := ih (depth + 2) (current ++ [char])
      have further := ih (depth + 1) (current ++ [char])
      have outer := ih depth (current ++ [char])
      simp only [readWords]
      split
      · simp at deeper ⊢
        omega
      · split
        · cases depth with
          | zero =>
            simp [Word.length] at fresh ⊢
            omega
          | succ depth =>
            simp at outer ⊢
            omega
        · simp at further ⊢
          omega

/-- A text has room for parentheses only around what is shorter. -/
theorem outerWords_ne_group {text inner : String} (short : text.length ≤ inner.length) :
    outerWords text ≠ [.group inner.toList] := by
  intro grouped
  have room := length_readWords 0 [] text.toList
  rw [← outerWords, grouped] at room
  simp only [← String.length_toList] at short
  simp [Word.length] at room
  omega

end BoundSql.Text
