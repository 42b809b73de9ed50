import BoundSql.Text.Blank
/-!
# Quoted texts and comments

A reader that knows no words divides a text from left to right into the texts between
single quotes, the comments, and the other characters.  A quoted text that is not closed
goes on to the end.  Two dashes begin a comment where a word can start: at the beginning of
the text, after a blank or an opening parenthesis, and right after another comment.  The
comment goes on to the end of its line.
-/

namespace BoundSql.Text

inductive Stretch where
  | quoted (chars : List Char)
  | comment (chars : List Char)
  | other (char : Char)
deriving DecidableEq

namespace Stretch

def chars : Stretch → List Char
  | .quoted chars | .comment chars => chars
  | .other char => [char]

/-- Whether it is a blank outside of quotes and comments. -/
def isBlank : Stretch → Bool
  | .other char => Text.isBlank char
  | .quoted _ | .comment _ => false

end Stretch

/-- Where the reader is, with the characters of the stretch so far. -/
inductive Reading where
  /-- Outside of quotes and comments, where a word can start or not. -/
  | outside (atStart : Bool)
  | quoted (before : List Char)
  | comment (before : List Char)

/-- Whether a word can start after a character. -/
def startsWord (char : Char) : Bool :=
  isBlank char || char == '('

/-- Whether a word can start after a stretch. -/
def Stretch.startsWord : Stretch → Bool
  | .quoted _ => false
  | .comment _ => true
  | .other char => Text.startsWord char

def stretchesFrom : Reading → List Char → List Stretch
  | .outside _, [] => []
  | .quoted before, [] => [.quoted before]
  | .comment before, [] => [.comment before]
  | .outside atStart, char :: rest =>
    if char = '\x27' then stretchesFrom (.quoted [char]) rest
    else if atStart && ['-', '-'].isPrefixOf (char :: rest) then
      stretchesFrom (.comment [char]) rest
    else .other char :: stretchesFrom (.outside (startsWord char)) rest
  | .quoted before, char :: rest =>
    if char = '\x27' then
      .quoted (before ++ [char]) :: stretchesFrom (.outside false) rest
    else stretchesFrom (.quoted (before ++ [char])) rest
  | .comment before, char :: rest =>
    if char = '\n' then
      .comment (before ++ [char]) :: stretchesFrom (.outside true) rest
    else stretchesFrom (.comment (before ++ [char])) rest

def stretches (atStart : Bool) (chars : List Char) : List Stretch :=
  stretchesFrom (.outside atStart) chars

example : stretches true "a--'--'--\n".toList =
    [.other 'a', .other '-', .other '-', .quoted "'--'".toList, .other '-', .other '-',
      .other '\n'] := by decide

example : stretches true "--a\n--b".toList = [.comment "--a\n".toList, .comment "--b".toList] := by
  decide

/-- What stands in the stretches, one after the other. -/
def joined (stretches : List Stretch) : List Char :=
  stretches.flatMap Stretch.chars

theorem joined_cons (stretch : Stretch) (others : List Stretch) :
    joined (stretch :: others) = stretch.chars ++ joined others :=
  List.flatMap_cons

def Reading.before : Reading → List Char
  | .outside _ => []
  | .quoted before | .comment before => before

/-- The stretches of a text are all of it. -/
theorem joined_stretchesFrom (reading : Reading) (chars : List Char) :
    joined (stretchesFrom reading chars) = reading.before ++ chars := by
  fun_induction stretchesFrom reading chars <;>
    simp_all [joined, Stretch.chars, Reading.before]

theorem joined_stretches (atStart : Bool) (chars : List Char) :
    joined (stretches atStart chars) = chars :=
  joined_stretchesFrom _ chars

/-! ### Steps of the reader -/

theorem stretchesFrom_quoted {body : List Char} (unquoted : '\x27' ∉ body)
    (before rest : List Char) :
    stretchesFrom (.quoted before) (body ++ rest) =
      stretchesFrom (.quoted (before ++ body)) rest := by
  induction body generalizing before with
  | nil => simp
  | cons char body ih =>
    simp only [List.mem_cons, not_or] at unquoted
    simp [stretchesFrom, Ne.symm unquoted.1, ih unquoted.2]

theorem stretchesFrom_comment {body : List Char} (unbroken : '\n' ∉ body)
    (before rest : List Char) :
    stretchesFrom (.comment before) (body ++ rest) =
      stretchesFrom (.comment (before ++ body)) rest := by
  induction body generalizing before with
  | nil => simp
  | cons char body ih =>
    simp only [List.mem_cons, not_or] at unbroken
    simp [stretchesFrom, Ne.symm unbroken.1, ih unbroken.2]

theorem stretches_quoted {body : List Char} (unquoted : '\x27' ∉ body) (atStart : Bool)
    (rest : List Char) :
    stretches atStart ('\x27' :: (body ++ '\x27' :: rest)) =
      .quoted ('\x27' :: (body ++ ['\x27'])) :: stretches false rest := by
  simp [stretches, stretchesFrom, stretchesFrom_quoted unquoted]

theorem stretches_unclosed {body : List Char} (unquoted : '\x27' ∉ body) (atStart : Bool) :
    stretches atStart ('\x27' :: body) = [.quoted ('\x27' :: body)] := by
  have inside := stretchesFrom_quoted unquoted ['\x27'] []
  rw [List.append_nil] at inside
  simp [stretches, stretchesFrom, inside]

theorem stretches_comment {body : List Char} (unbroken : '\n' ∉ body) (rest : List Char) :
    stretches true ('-' :: '-' :: (body ++ '\n' :: rest)) =
      .comment ('-' :: '-' :: (body ++ ['\n'])) :: stretches true rest := by
  simp [stretches, stretchesFrom, stretchesFrom_comment unbroken]

theorem stretches_lastComment {body : List Char} (unbroken : '\n' ∉ body) :
    stretches true ('-' :: '-' :: body) = [.comment ('-' :: '-' :: body)] := by
  have inside := stretchesFrom_comment unbroken ['-', '-'] []
  rw [List.append_nil] at inside
  simp [stretches, stretchesFrom, inside]

theorem stretches_other {char : Char} {atStart : Bool} {rest : List Char} (unquoted : char ≠ '\x27')
    (noComment : atStart = true → ['-', '-'].isPrefixOf (char :: rest) = false) :
    stretches atStart (char :: rest) = .other char :: stretches (startsWord char) rest := by
  have other : (atStart && ['-', '-'].isPrefixOf (char :: rest)) = false := by
    cases atStart with
    | false => rfl
    | true => simpa using noComment rfl
  simp only [stretches, stretchesFrom, unquoted, if_false, other, Bool.false_eq_true]

theorem stretches_char {char : Char} (quote : char ≠ '\x27') (dash : char ≠ '-')
    (atStart : Bool) (rest : List Char) :
    stretches atStart (char :: rest) = .other char :: stretches (startsWord char) rest :=
  stretches_other quote fun _ => by simp [List.isPrefixOf, Ne.symm dash]

/-! ### Blanks between characters -/

/-- The characters of a text that are no blanks, each with whether a blank follows it. -/
def spacing : List Char → List (Char × Bool)
  | [] => []
  | char :: rest =>
    if isBlank char then spacing rest
    else (char, rest.head?.any isBlank) :: spacing rest

example : spacing " a b\n".toList = [('a', true), ('b', true)] := by decide

end BoundSql.Text
