import BoundSql.Text.Blank
import BoundSql.Text.Quoted
import Mathlib.Data.List.Infix
/-!
# Comments in a text

A comment begins with two dashes and ends with the line.  A reader that knows nothing
else of a text takes all comments out of it.
-/

namespace BoundSql.Text

/-- The characters outside of comments, where `inside` is whether the text begins in the
midst of one. -/
def outsideRemarks : (inside : Bool) → List Char → List Char
  | _, [] => []
  | true, char :: rest => outsideRemarks (char != '\n') rest
  | false, '-' :: '-' :: rest => outsideRemarks true rest
  | false, char :: rest => char :: outsideRemarks false rest

/-- A text without everything from two dashes through the next line break. -/
def withoutRemarks (text : String) : String :=
  String.ofList (outsideRemarks false text.toList)

/-- Whether two dashes follow each other. -/
def HasDashes (chars : List Char) : Prop :=
  ['-', '-'] <:+: chars

instance (chars : List Char) : Decidable (HasDashes chars) :=
  inferInstanceAs (Decidable (_ <:+: _))

theorem HasDashes.mem {chars : List Char} (dashes : HasDashes chars) : '-' ∈ chars :=
  dashes.subset (by simp)

@[simp] theorem not_hasDashes_nil : ¬ HasDashes [] := by decide

theorem hasDashes_cons_iff {char : Char} {rest : List Char} :
    HasDashes (char :: rest) ↔ (char = '-' ∧ rest.head? = some '-') ∨ HasDashes rest := by
  unfold HasDashes
  rw [List.infix_cons_iff]
  refine or_congr_left ?_
  cases rest <;> simp [List.cons_prefix_cons, eq_comm]

theorem outsideRemarks_cons {char : Char} {rest : List Char}
    (single : ¬ (char = '-' ∧ rest.head? = some '-')) :
    outsideRemarks false (char :: rest) = char :: outsideRemarks false rest := by
  rw [outsideRemarks]
  rintro others rfl rfl
  exact single ⟨rfl, rfl⟩

/-- What has no two dashes is kept, unless one more dash follows its last one. -/
theorem outsideRemarks_append {before after : List Char} (dashless : ¬ HasDashes before)
    (apart : '-' ∈ before → after.head? ≠ some '-') :
    outsideRemarks false (before ++ after) = before ++ outsideRemarks false after := by
  induction before with
  | nil => rfl
  | cons char rest ih =>
    rw [hasDashes_cons_iff, not_or] at dashless
    obtain ⟨single, dashless⟩ := dashless
    have ih := ih dashless fun inside => apart (.tail _ inside)
    have single : ¬ (char = '-' ∧ (rest ++ after).head? = some '-') := by
      rintro ⟨rfl, dash⟩
      cases rest with
      | nil => exact apart (by simp) dash
      | cons next rest => exact single ⟨rfl, dash⟩
    rw [List.cons_append, outsideRemarks_cons single, ih, List.cons_append]

/-- A comment goes on to the end of its line. -/
theorem outsideRemarks_inside {line : List Char} (unbroken : '\n' ∉ line) (after : List Char) :
    outsideRemarks true (line ++ '\n' :: after) = outsideRemarks false after := by
  induction line with
  | nil => rfl
  | cons char rest ih =>
    rw [List.mem_cons, not_or] at unbroken
    have other : (char != '\n') = true := bne_iff_ne.mpr (Ne.symm unbroken.1)
    rw [List.cons_append, outsideRemarks, other, ih unbroken.2]

/-! ### Parts of a text -/

/-- Each part of a text is one stretch of it, the first at its beginning. -/
theorem mem_split_isInfix {breaksAt : Char → Bool} (chars : List Char) :
    (∀ piece ∈ split breaksAt chars, piece <:+: chars) ∧
      ∀ piece ∈ (split breaksAt chars).head?, piece <+: chars := by
  induction chars with
  | nil => simp [split]
  | cons char rest ih =>
    obtain ⟨within, leading⟩ := ih
    rw [split]
    split
    · simp only [List.forall_mem_cons, List.head?_cons, Option.mem_some_iff, forall_eq',
        List.nil_infix, List.nil_prefix, true_and, and_true]
      exact fun piece mem => (within piece mem).trans (List.infix_cons (List.infix_refl rest))
    · split
      · rename_i none
        exact absurd none (split_ne_nil breaksAt rest)
      · rename_i first others pieces
        rw [pieces] at within leading
        have extended : char :: first <+: char :: rest :=
          List.prefix_cons_inj char |>.mpr (leading first (by simp))
        simp only [List.forall_mem_cons, List.head?_cons, Option.mem_some_iff, forall_eq']
        refine ⟨⟨extended.isInfix, fun piece mem => ?_⟩, extended⟩
        exact (within piece (by simp [mem])).trans (List.infix_cons (List.infix_refl rest))

theorem not_hasDashes_of_mem_split {breaksAt : Char → Bool} {chars piece : List Char}
    (dashless : ¬ HasDashes chars) (mem : piece ∈ split breaksAt chars) : ¬ HasDashes piece :=
  fun dashes => dashless (dashes.trans ((mem_split_isInfix chars).1 piece mem))

namespace Quoted

variable {quote : Char}

theorem head?_double (chars : List Char) : (double quote chars).head? = chars.head? := by
  cases chars with
  | nil => rfl
  | cons char rest =>
    rw [double]
    split
    · next same => simp [same]
    · rfl

/-- Quotes that are no dashes put no two dashes together. -/
theorem not_hasDashes_double (other : quote ≠ '-') {chars : List Char}
    (dashless : ¬ HasDashes chars) : ¬ HasDashes (double quote chars) := by
  induction chars with
  | nil => exact dashless
  | cons char rest ih =>
    rw [hasDashes_cons_iff, not_or] at dashless
    rw [double]
    split
    · simp [hasDashes_cons_iff, other, ih dashless.2]
    · simpa [hasDashes_cons_iff, head?_double] using ⟨by simpa using dashless.1, ih dashless.2⟩

theorem not_hasDashes_encode (other : quote ≠ '-') {text : String}
    (dashless : ¬ HasDashes text.toList) : ¬ HasDashes (encode quote text).toList := by
  have closed : ∀ chars : List Char, ¬ HasDashes chars → ¬ HasDashes (chars ++ [quote]) := by
    intro chars
    induction chars with
    | nil => simp [hasDashes_cons_iff]
    | cons char rest ih =>
      cases rest with
      | nil => simp [hasDashes_cons_iff, other]
      | cons next rest =>
        simp only [List.cons_append, @hasDashes_cons_iff char, not_or]
        exact fun ⟨single, dashless⟩ => ⟨single, ih dashless⟩
  rw [encode, String.toList_ofList, hasDashes_cons_iff, not_or]
  exact ⟨fun dash => other dash.1, closed _ (not_hasDashes_double other dashless)⟩

end Quoted

end BoundSql.Text
