import BoundSql.Proofs.Comments.Statement
import BoundSql.Proofs.Path.Statement
import BoundSql.Proofs.Path.Supplied
import BoundSql.Text.Remarks
/-!
# Reading statements with comments

A comment stands on a line of its own, or where a keyword or sign is before it.  So a
reader that takes comments out of the text of a statement finds the text of the
statement without comments, if each comment ends where it should, and nothing else
looks like one.
-/

namespace BoundSql

open Text (HasDashes outsideRemarks)

/-- Whether a reader that takes out comments takes out the whole piece, or nothing of
it. -/
def Piece.IsInert (dialect : Dialect) : Piece → Prop
  | .remark comment => '\n' ∉ comment.toList
  | piece => ∀ number, ¬ HasDashes (piece.render dialect number).toList

/-! ### Single pieces -/

theorem not_isSign_dash {content : String} (firm : isFirm content) : '-' ∉ content.toList := by
  intro inside
  simp only [isFirm, Bool.and_eq_true, List.all_eq_true] at firm
  exact absurd (firm.1.2 _ inside) (by decide)

theorem dash_notMem_token (number : Nat) : '-' ∉ (token number).toList := by
  rw [toList_token]
  simp only [List.mem_cons, not_or]
  refine ⟨by decide, by decide, fun inside => ?_⟩
  have digit := Nat.isDigit_of_mem_toDigits (by decide) (by decide) inside
  contradiction

variable {dialect : Dialect}

theorem dash_notMem_unnamedColumn (quote : dialect.quote ≠ some '-') (number : Nat) :
    '-' ∉ (Piece.unnamedColumn.render dialect number).toList := by
  intro inside
  cases quoting : dialect.quote with
  | none => simp [Piece.render, quoting] at inside
  | some char =>
    simp only [Piece.render, quoting, Dialect.quoteIdentifier, String.toList_append,
      List.mem_append] at inside
    rcases inside with blank | inside
    · simp at blank
    · rcases Text.Quoted.mem_encode inside with rfl | none
      · exact quote quoting
      · simp at none

/-- A comment is taken out with the end of its line. -/
theorem Piece.outsideRemarks_remark {comment : String} (unbroken : '\n' ∉ comment.toList)
    (number : Nat) (after : List Char) :
    outsideRemarks false (((remark comment).render dialect number).toList ++ after) =
      outsideRemarks false after := by
  have chars : ((remark comment).render dialect number).toList ++ after =
      '-' :: '-' :: ((' ' :: comment.toList) ++ '\n' :: after) := by
    simp [render]
  have line : '\n' ∉ ' ' :: comment.toList := by simpa using unbroken
  rw [chars, outsideRemarks, Text.outsideRemarks_inside line]

theorem Piece.isInert_ofIdentifier (quote : dialect.quote ≠ some '-') {identifier : String}
    (dashless : ¬ HasDashes identifier.toList) :
    (ofIdentifier identifier).IsInert dialect := by
  have text : ∀ number, ¬ HasDashes
      ((ofIdentifier identifier).render dialect number).toList := by
    intro number
    rw [render_ofIdentifier]
    unfold Dialect.identifier Dialect.quoteIdentifier
    split
    · exact dashless
    · split
      · exact dashless
      · rename_i char quoting
        have other : char ≠ '-' := by
          rintro rfl
          exact quote quoting
        exact Text.Quoted.not_hasDashes_encode other dashless
  unfold ofIdentifier at text ⊢
  split <;> simp_all [IsInert]

namespace Supplied

/-- Whether all comments among supplied texts are on one line. -/
def AreUnbroken (supplied : List Supplied) : Prop :=
  ∀ given ∈ supplied, given.isComment → '\n' ∉ given.text.toList

/-- Comments on one line are allowed where pieces are to be inert, and so are other texts
without two dashes. -/
theorem AreUnbroken.within_isInert (quote : dialect.quote ≠ some '-') {supplied : List Supplied}
    (unbroken : AreUnbroken supplied)
    (dashless : ∀ given ∈ supplied, ¬ given.isComment → ¬ HasDashes given.text.toList) :
    Within (Piece.IsInert dialect) supplied := by
  intro given among piece mem
  have unbroken := unbroken given among
  have dashless := dashless given among
  cases given with
  | identifier content =>
    obtain rfl : piece = .ofIdentifier content := by simpa [pieces] using mem
    exact Piece.isInert_ofIdentifier quote (dashless (by simp [isComment]))
  | verbatim content =>
    obtain rfl : piece = .text content := by simpa [pieces] using mem
    exact fun _ => dashless (by simp [isComment])
  | comment content =>
    obtain rfl : piece = .remark content := by simpa [pieces] using mem
    exact unbroken rfl
  | dotted content =>
    have dashless : ¬ HasDashes content.toList := dashless (by simp [isComment])
    simp only [pieces] at mem
    split at mem
    · obtain rfl : piece = .text content := by simpa using mem
      exact fun _ => dashless
    · obtain ⟨part, among, rfl⟩ := List.mem_map.mp mem
      apply Piece.isInert_ofIdentifier quote
      rw [String.toList_ofList]
      exact Text.not_hasDashes_of_mem_split dashless among

end Supplied

/-! ### Paths -/

/-- By induction on the path.  Two dashes would have to come together from two pieces,
but what comes after a name is firm, and so is what comes before a comment. -/
theorem Path.outsideRemarks_render (quote : dialect.quote ≠ some '-') {start stop : Place}
    {pieces : List Piece} (path : Path (Piece.IsInert dialect) start pieces stop)
    (number : Nat) :
    outsideRemarks false (Draft.render dialect number pieces).toList =
      (Draft.render dialect number (pieces.filter (!·.isRemark))).toList := by
  induction path generalizing number with
  | nil => rfl
  | loosen => rfl
  | @cons start next stop piece rest step path ih =>
    have others := ih (number + piece.values.length)
    have kept : piece.isRemark = false → ¬ HasDashes (piece.render dialect number).toList →
        ('-' ∈ (piece.render dialect number).toList →
          (Draft.render dialect (number + piece.values.length) rest).toList.head? ≠ some '-') →
        outsideRemarks false (Draft.render dialect number (piece :: rest)).toList =
          (Draft.render dialect number ((piece :: rest).filter (!·.isRemark))).toList := by
      intro plain dashless apart
      rw [List.filter_cons_of_pos (by simp [plain]), Draft.render, Draft.render,
        String.toList_append, String.toList_append, Text.outsideRemarks_append dashless apart,
        others]
    have takenOut : ∀ comment, piece = .remark comment → '\n' ∉ comment.toList →
        outsideRemarks false (Draft.render dialect number (piece :: rest)).toList =
          (Draft.render dialect number ((piece :: rest).filter (!·.isRemark))).toList := by
      rintro comment rfl unbroken
      rw [List.filter_cons_of_neg (by simp [Piece.isRemark]), Draft.render, String.toList_append,
        Piece.outsideRemarks_remark unbroken, others]
      rfl
    cases step with
    | firm firm _ =>
      have none := not_isSign_dash firm
      exact kept rfl (fun dashes => none dashes.mem) fun inside => absurd inside none
    | remark isAllowed => exact takenOut _ rfl isAllowed
    | value =>
      have none := dash_notMem_token number
      exact kept rfl (fun dashes => none dashes.mem) fun inside => absurd inside none
    | unnamedColumn =>
      have none := dash_notMem_unnamedColumn quote number
      exact kept rfl (fun dashes => none dashes.mem) fun inside => absurd inside none
    | supplied isAllowed =>
      have apart : (Draft.render dialect (number + piece.values.length) rest).toList.head? ≠
          some '-' := by
        intro dash
        exact absurd (path.head_render dash).1 (by decide)
      cases piece with
      | remark comment => exact takenOut comment rfl isAllowed
      | _ => exact kept rfl (isAllowed number) fun _ => apart

/-! ### Compiling -/

theorem Draft.values_uncommented (draft : Draft) : draft.uncommented.values = draft.values := by
  unfold values uncommented
  induction draft.pieces with
  | nil => rfl
  | cons piece rest ih =>
    cases piece <;> simp_all [Piece.isRemark, Piece.values]

/-- A compiled statement with the comments taken out of its text. -/
def Compiled.withoutRemarks (compiled : Compiled) : Compiled :=
  { compiled with sql := Text.withoutRemarks compiled.sql }

namespace Statement

/-- Whether all comments of a statement, and of what it holds, are on one line. -/
def IsUnbroken (statement : Statement) : Prop :=
  Supplied.AreUnbroken statement.supplied

theorem IsUnbroken.compile_uncommented {statement : Statement}
    (unbroken : statement.IsUnbroken) (quote : dialect.quote ≠ some '-')
    (dashless : ∀ given ∈ statement.supplied,
      ¬ given.isComment → ¬ HasDashes given.text.toList) :
    (statement.compile dialect).map Compiled.withoutRemarks =
      statement.uncommented.compile dialect := by
  rw [compile_eq, compile_eq, draft_uncommented, Draft.values_uncommented]
  have lacks : statement.draft.uncommented.failure = statement.draft.failure := rfl
  rw [lacks]
  cases finished : statement.draft.failure with
  | some lack => rfl
  | none =>
    have within := Supplied.AreUnbroken.within_isInert quote unbroken dashless
    have path := level_draft within 0 finished
    have read := path.outsideRemarks_render quote 1
    simp only [Except.map, Compiled.withoutRemarks, Text.withoutRemarks, read,
      String.ofList_toList]
    rfl

end Statement

end BoundSql
