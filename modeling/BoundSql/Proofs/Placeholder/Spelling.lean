import BoundSql.Proofs.Path.Supplied
import BoundSql.Proofs.Placeholder.Reading
/-!
# Spelling values

A draft can be rendered with any spelling of its values in place of placeholders.
If the pieces on a path hold no colon, then a reader of the rendered draft sees a
placeholder where the draft has a value and nowhere else.  So to change placeholders
in the text is to spell the values of the draft in another way.
-/

namespace BoundSql

open Text (Lexeme lexemes lexemes_append lexemes_token_append placeholders replacePlaceholders)

variable (dialect : Dialect)

/-- A piece with its value spelled, where `number` is that of the next
placeholder. -/
def Piece.spell (spelling : (number : Nat) → Value → String) (number : Nat) : Piece → String
  | .value bound => spelling number bound
  | piece => piece.render dialect number

/-- Pieces with their values spelled, where `number` is that of the first
placeholder. -/
def Draft.spell (spelling : (number : Nat) → Value → String) :
    (number : Nat) → List Piece → String
  | _, [] => ""
  | number, piece :: rest =>
    piece.spell dialect spelling number ++ spell spelling (number + piece.values.length) rest

/-- What a reader of placeholders sees of a piece that has no colon of its own. -/
def Piece.lexemes (number : Nat) : Piece → List Lexeme
  | .value _ => [.placeholder (token number)]
  | piece => (piece.render dialect number).toList.map .char

/-- What a reader of placeholders sees of pieces that have no colons of their
own. -/
def Draft.lexemes : (number : Nat) → List Piece → List Lexeme
  | _, [] => []
  | number, piece :: rest =>
    piece.lexemes dialect number ++ lexemes (number + piece.values.length) rest

/-- Whether a piece binds nothing and is written without a colon. -/
def Piece.IsColonless (piece : Piece) : Prop :=
  piece.values = [] ∧ ∀ number, ':' ∉ (piece.render dialect number).toList

variable {dialect}

theorem Supplied.within_isColonless (quote : dialect.quote ≠ some ':') {supplied : List Supplied}
    (colonless : ∀ given ∈ supplied, ':' ∉ given.text.toList) :
    Within (Piece.IsColonless dialect) supplied := by
  intro given member piece among
  refine ⟨values_of_mem_pieces among, fun number inside => ?_⟩
  obtain own | quoting | sign := mem_render among inside
  · exact colonless given member own
  · exact quote quoting
  · simp at sign

theorem not_isSign_colon {content : String} (firm : isFirm content) : ':' ∉ content.toList := by
  intro inside
  simp only [isFirm, Bool.and_eq_true, List.all_eq_true] at firm
  exact absurd (firm.1.2 _ inside) (by decide)

/-- What comes after something that is not firm does not begin with a digit. -/
theorem Path.not_isDigit_head_render {allowed : Piece → Prop} {depth : Nat} {pieces : List Piece}
    {stop : Place} (path : Path allowed ⟨depth, false⟩ pieces stop) (number : Nat) :
    ¬ (Draft.render dialect number pieces).toList.head?.any Char.isDigit := by
  cases head : (Draft.render dialect number pieces).toList.head? with
  | none => simp
  | some char => exact (path.head_render head).2

/-- The reader sees a placeholder where the draft has a value, and nowhere else. -/
theorem Path.lexemes_render (quote : dialect.quote ≠ some ':') {start stop : Place}
    {pieces : List Piece} (path : Path (Piece.IsColonless dialect) start pieces stop)
    (number : Nat) :
    lexemes 0 (Draft.render dialect number pieces).toList =
      Draft.lexemes dialect number pieces := by
  induction path generalizing number with
  | nil => rfl
  | loosen => rfl
  | @cons _ _ _ piece rest step path ih =>
    have colonless : ∀ {piece : Piece}, piece.IsColonless dialect →
        lexemes 0 (Draft.render dialect number (piece :: rest)).toList =
          Draft.lexemes dialect number (piece :: rest) := by
      intro piece isColonless
      have chars : piece.lexemes dialect number =
          (piece.render dialect number).toList.map .char := by
        cases piece with
        | value bound => simp [Piece.IsColonless, Piece.values] at isColonless
        | _ => rfl
      simp [Draft.render, Draft.lexemes, lexemes_append (isColonless.2 number), ih, chars]
    cases step with
    | firm firm _ => exact colonless ⟨rfl, fun _ => not_isSign_colon firm⟩
    | remark isAllowed => exact colonless isAllowed
    | supplied isAllowed => exact colonless isAllowed
    | unnamedColumn =>
      refine colonless ⟨rfl, fun _ inside => ?_⟩
      cases quoting : dialect.quote with
      | none => simp [Piece.render, quoting] at inside
      | some char =>
        have same : ':' = char := by
          simpa [Piece.render, quoting, Dialect.quoteIdentifier, Text.Quoted.encode,
            Text.Quoted.double] using inside
        exact quote (by rw [quoting, same])
    | value =>
      simp [Draft.render, Draft.lexemes, Piece.render, Piece.lexemes, ih,
        lexemes_token_append number (path.not_isDigit_head_render _), -toList_token]

namespace Draft

theorem filterMap_lexemes (number : Nat) (pieces : List Piece) :
    (Draft.lexemes dialect number pieces).filterMap Lexeme.token? =
      (List.range' number (pieces.flatMap Piece.values).length).map token := by
  induction pieces generalizing number with
  | nil => simp [Draft.lexemes]
  | cons piece rest ih =>
    cases piece with
    | value bound =>
      simp [Draft.lexemes, Piece.lexemes, Piece.values, Lexeme.token?, ih, List.range'_succ]
    | _ =>
      simp [Draft.lexemes, Piece.lexemes, Piece.values, Lexeme.token?, List.filterMap_map, ih,
        Function.comp_def]

theorem join_write_lexemes (change : String → String) (number : Nat) (pieces : List Piece) :
    String.join ((Draft.lexemes dialect number pieces).map (Lexeme.write change)) =
      spell dialect (fun number _ => change (token number)) number pieces := by
  have plain : ∀ text : String, String.join (text.toList.map String.singleton) = text := by
    intro text
    rw [← String.toList_inj, String.toList_join, List.flatMap_map]
    simp
  induction pieces generalizing number with
  | nil => simp [Draft.lexemes, spell]
  | cons piece rest ih =>
    cases piece with
    | value bound =>
      simp [Draft.lexemes, spell, Piece.spell, Piece.lexemes, Piece.values, Lexeme.write, ih]
    | _ =>
      simp [Draft.lexemes, spell, Piece.spell, Piece.lexemes, Piece.values, Lexeme.write,
        plain, ih, Function.comp_def]

end Draft

namespace Path

variable {start stop : Place} {pieces : List Piece}

/-- The placeholders in the text are those of the values, one after the other. -/
theorem placeholders_render (quote : dialect.quote ≠ some ':')
    (path : Path (Piece.IsColonless dialect) start pieces stop) (number : Nat) :
    placeholders (Draft.render dialect number pieces) =
      (List.range' number (pieces.flatMap Piece.values).length).map token := by
  rw [placeholders, path.lexemes_render quote, Draft.filterMap_lexemes]

/-- To change the placeholders in the text is to spell the values in another way. -/
theorem replacePlaceholders_render (quote : dialect.quote ≠ some ':')
    (path : Path (Piece.IsColonless dialect) start pieces stop) (change : String → String)
    (number : Nat) :
    replacePlaceholders change (Draft.render dialect number pieces) =
      Draft.spell dialect (fun number _ => change (token number)) number pieces := by
  rw [replacePlaceholders, path.lexemes_render quote, Draft.join_write_lexemes]

end Path

end BoundSql
