/-!
# Parentheses

How deep a text goes into parentheses.  A text is balanced if it closes each
parenthesis that it opens and no other.
-/

namespace BoundSql.Text

/-- How many parentheses are open after a text, where so many are open before it.
There is none if the text closes one that is not open. -/
def nesting : (depth : Nat) → List Char → Option Nat
  | depth, [] => some depth
  | depth, char :: rest =>
    if char = '(' then nesting (depth + 1) rest
    else if char = ')' then
      match depth with
      | 0 => none
      | outer + 1 => nesting outer rest
    else nesting depth rest

/-- Whether a text closes what it opens and nothing else. -/
def isBalanced (text : String) : Bool :=
  nesting 0 text.toList = some 0

theorem nesting_append (depth : Nat) (first second : List Char) :
    nesting depth (first ++ second) =
      (nesting depth first).bind fun inner => nesting inner second := by
  induction first generalizing depth with
  | nil => rfl
  | cons char rest ih =>
    simp only [List.cons_append, nesting]
    split
    · exact ih _
    · split
      · cases depth with
        | zero => rfl
        | succ outer => exact ih _
      · exact ih _

/-- More open parentheses around a text change nothing in it. -/
theorem nesting_add {depth after : Nat} {chars : List Char}
    (nested : nesting depth chars = some after) (outer : Nat) :
    nesting (depth + outer) chars = some (after + outer) := by
  induction chars generalizing depth with
  | nil => simp_all [nesting]
  | cons char rest ih =>
    by_cases opens : char = '('
    · simp only [nesting, opens, if_true] at nested ⊢
      rw [Nat.add_right_comm]
      exact ih nested
    · by_cases closes : char = ')'
      · cases depth with
        | zero => simp [nesting, closes] at nested
        | succ inner =>
          rw [Nat.add_right_comm]
          simp only [nesting, closes, if_true] at nested ⊢
          exact ih nested
      · simp only [nesting, opens, closes, if_false] at nested ⊢
        exact ih nested

theorem nesting_of_isBalanced {text : String} (balanced : isBalanced text) (depth : Nat) :
    nesting depth text.toList = some depth := by
  have nested : nesting 0 text.toList = some 0 := by simpa [isBalanced] using balanced
  simpa only [Nat.zero_add] using nesting_add nested depth

theorem nesting_of_no_parenthesis {chars : List Char} (opens : '(' ∉ chars) (closes : ')' ∉ chars)
    (depth : Nat) : nesting depth chars = some depth := by
  induction chars with
  | nil => rfl
  | cons char rest ih =>
    simp only [List.mem_cons, not_or] at opens closes
    simp [nesting, Ne.symm opens.1, Ne.symm closes.1, ih opens.2 closes.2]

theorem isBalanced_append {first second : String} (balanced : isBalanced first)
    (further : isBalanced second) : isBalanced (first ++ second) := by
  have nested := nesting_of_isBalanced balanced 0
  have nestedFurther := nesting_of_isBalanced further 0
  simp [isBalanced, nesting_append, nested, nestedFurther]

theorem isBalanced_parenthesized {text : String} (balanced : isBalanced text) :
    isBalanced ("(" ++ text ++ ")") := by
  have nested := nesting_of_isBalanced balanced 1
  simp [isBalanced, nesting, nesting_append, nested]

theorem isBalanced_of_no_parenthesis {text : String} (opens : '(' ∉ text.toList)
    (closes : ')' ∉ text.toList) : isBalanced text := by
  simp [isBalanced, nesting_of_no_parenthesis opens closes]

/-- A balanced text closes nothing if it opens nothing. -/
theorem no_closing {text : String} (balanced : isBalanced text) (opens : '(' ∉ text.toList) :
    ')' ∉ text.toList := by
  have nested := nesting_of_isBalanced balanced 0
  generalize text.toList = chars at nested opens
  induction chars with
  | nil => simp
  | cons char rest ih =>
    simp only [List.mem_cons, not_or] at opens ⊢
    simp only [nesting, Ne.symm opens.1, if_false] at nested
    split at nested
    · simp at nested
    · rename_i plain
      exact ⟨Ne.symm plain, ih nested opens.2⟩

end BoundSql.Text
