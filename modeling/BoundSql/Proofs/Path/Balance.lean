import BoundSql.Proofs.Giving
import BoundSql.Proofs.Path.Supplied
import BoundSql.Proofs.Path.Clause
/-!
# Balanced texts

A draft comes to the end of its path with the parentheses open that it starts with.
So the text of a draft is balanced if the supplied texts in it are, and the quotes
of the dialect are no parentheses.
-/

namespace BoundSql

open Text (isBalanced)

/-- Whether the text of a piece is balanced, whatever the number of its
placeholder. -/
def Piece.IsBalanced (dialect : Dialect) (piece : Piece) : Prop :=
  ∀ number, isBalanced (piece.render dialect number)

/-- The quote of a dialect is a balanced text too: no parenthesis. -/
def Dialect.QuotesNoParenthesis (dialect : Dialect) : Prop :=
  dialect.quote ≠ some '(' ∧ dialect.quote ≠ some ')'

instance (dialect : Dialect) : Decidable dialect.QuotesNoParenthesis :=
  inferInstanceAs (Decidable (_ ∧ _))

variable {dialect : Dialect}

namespace Dialect

/-- Quotes add no parentheses to a text. -/
theorem QuotesNoParenthesis.isBalanced_quoteIdentifier (sound : dialect.QuotesNoParenthesis)
    {identifier : String} (opens : '(' ∉ identifier.toList) (closes : ')' ∉ identifier.toList) :
    isBalanced (dialect.quoteIdentifier identifier) := by
  unfold quoteIdentifier
  split
  · exact Text.isBalanced_of_no_parenthesis opens closes
  · rename_i quote quoting
    have other : '(' ≠ quote ∧ ')' ≠ quote := by
      simpa [QuotesNoParenthesis, quoting, eq_comm] using sound
    apply Text.isBalanced_of_no_parenthesis
    · intro inside
      obtain same | inside := Text.Quoted.mem_encode inside
      · exact other.1 same
      · exact opens inside
    · intro inside
      obtain same | inside := Text.Quoted.mem_encode inside
      · exact other.2 same
      · exact closes inside

theorem QuotesNoParenthesis.isBalanced_identifier (sound : dialect.QuotesNoParenthesis)
    {identifier : String} (balanced : isBalanced identifier) :
    isBalanced (dialect.identifier identifier) := by
  unfold Dialect.identifier
  split
  · exact balanced
  · have opens : '(' ∉ identifier.toList := by simp_all [isExpression]
    exact sound.isBalanced_quoteIdentifier opens (Text.no_closing balanced opens)

theorem QuotesNoParenthesis.isBalanced_unnamedColumn (sound : dialect.QuotesNoParenthesis) :
    Piece.unnamedColumn.IsBalanced dialect := by
  intro number
  simp only [Piece.render]
  split
  · rfl
  · have blank : isBalanced " " := by decide
    exact Text.isBalanced_append blank (sound.isBalanced_quoteIdentifier (by simp) (by simp))

end Dialect

namespace Supplied

/-- Balanced texts are allowed where pieces are to be balanced. -/
theorem within_isBalanced (sound : dialect.QuotesNoParenthesis) {supplied : List Supplied}
    (balanced : ∀ given ∈ supplied, isBalanced given.text) :
    Within (Piece.IsBalanced dialect) supplied := by
  intro given among piece member number
  have balanced := balanced given among
  cases given with
  | identifier content =>
    obtain rfl : piece = .ofIdentifier content := by simpa [pieces] using member
    rw [Piece.render_ofIdentifier]
    exact sound.isBalanced_identifier balanced
  | verbatim content =>
    obtain rfl : piece = .text content := by simpa [pieces] using member
    exact balanced
  | comment content =>
    obtain rfl : piece = .remark content := by simpa [pieces] using member
    have opening : isBalanced "-- " := by decide
    have closing : isBalanced "\n" := by decide
    exact Text.isBalanced_append (Text.isBalanced_append opening balanced) closing
  | dotted content =>
    simp only [pieces] at member
    split at member
    · obtain rfl : piece = .text content := by simpa using member
      exact balanced
    · rename_i plain
      have opens : '(' ∉ content.toList := by simpa [isExpression] using plain
      have closes := Text.no_closing balanced opens
      obtain ⟨part, among, rfl⟩ := List.mem_map.mp member
      rw [Piece.render_ofIdentifier]
      apply sound.isBalanced_identifier
      apply Text.isBalanced_of_no_parenthesis
      · intro inside
        exact opens (Text.mem_of_mem_split among (by simpa using inside))
      · intro inside
        exact closes (Text.mem_of_mem_split among (by simpa using inside))

end Supplied

theorem isBalanced_token (number : Nat) : isBalanced (token number) := by
  have plain : ∀ char ∈ (token number).toList, char ≠ '(' ∧ char ≠ ')' := by
    simp only [toList_token, List.forall_mem_cons]
    refine ⟨by decide, by decide, fun char member => ?_⟩
    have digit := Nat.isDigit_of_mem_toDigits (by decide) (by decide) member
    constructor
    · rintro rfl
      contradiction
    · rintro rfl
      contradiction
  exact Text.isBalanced_of_no_parenthesis (fun inside => (plain _ inside).1 rfl)
    fun inside => (plain _ inside).2 rfl

/-- The text of a path opens and closes the parentheses that the path does. -/
theorem Path.nesting_render (sound : dialect.QuotesNoParenthesis) {start stop : Place}
    {pieces : List Piece} (path : Path (Piece.IsBalanced dialect) start pieces stop)
    (number : Nat) :
    Text.nesting start.depth (Draft.render dialect number pieces).toList = some stop.depth := by
  induction path generalizing number with
  | nil => rfl
  | loosen => rfl
  | cons step path ih =>
    simp only [Draft.render, String.toList_append, Text.nesting_append, Option.bind_eq_some_iff]
    refine ⟨_, ?_, ih _⟩
    cases step with
    | firm isFirm nests => exact nests
    | remark isAllowed => exact Text.nesting_of_isBalanced (isAllowed number) _
    | supplied isAllowed => exact Text.nesting_of_isBalanced (isAllowed number) _
    | value => exact Text.nesting_of_isBalanced (isBalanced_token number) _
    | unnamedColumn => exact Text.nesting_of_isBalanced (sound.isBalanced_unnamedColumn number) _

theorem Draft.Level.gives_isBalanced (sound : dialect.QuotesNoParenthesis) {draft : Draft}
    (level : draft.Level (Piece.IsBalanced dialect) true) :
    (draft.write dialect).Gives fun text => isBalanced text := by
  intro parameters text after given
  unfold Draft.write at given
  split at given
  · rename_i finished
    cases given
    have nested := Path.nesting_render sound (level 0 finished) parameters.next
    simpa [isBalanced] using nested
  · cases given

end BoundSql
