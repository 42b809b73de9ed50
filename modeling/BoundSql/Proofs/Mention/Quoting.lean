import BoundSql.Proofs.Mention.Statement
import BoundSql.Proofs.Placeholder.Numbering
import BoundSql.Text.Regions
/-!
# Quoted identifiers

A reader of quoted regions finds the identifiers that a compiled statement mentions, one
region for each, whatever characters they have.  No two regions touch, since what
follows an identifier begins with a keyword or sign.

This needs a quote that no keyword, sign or placeholder has in it, and no text that is
written as it is.
-/

namespace BoundSql

open Text.Quoted

/-- Whether a character is none of those of keywords, signs, comment marks and
placeholders. -/
def isForeign (char : Char) : Bool :=
  !isSign char && !char.isDigit && char ∉ ['-', ':', 'v']

namespace Piece

/-- Whether the text of a piece that is no identifier is without quotes. -/
def IsUnquoted (quote : Char) : Piece → Prop
  | .text content => quote ∉ content.toList
  | .remark comment => quote ∉ comment.toList
  | .name _ | .unnamedColumn | .value _ => True

variable {dialect : Dialect} {quote : Char} (foreign : isForeign quote)
include foreign

theorem not_mem_token (number : Nat) : quote ∉ (token number).toList := by
  intro inside
  simp only [toList_token, List.mem_cons] at inside
  obtain rfl | rfl | digit := inside
  · exact absurd foreign (by decide)
  · exact absurd foreign (by decide)
  · have isDigit := Nat.isDigit_of_mem_toDigits (by decide) (by decide) digit
    simp [isForeign, isDigit] at foreign

theorem isUnquoted_of_isSign {piece : Piece} (sign : piece.IsSign) : piece.IsUnquoted quote := by
  cases piece with
  | text content =>
    intro inside
    simp only [IsSign, isFirm, Bool.and_eq_true, List.all_eq_true] at sign
    simp [isForeign, sign.1.2 quote inside] at foreign
  | value bound => trivial
  | _ => exact sign.elim

theorem not_mem_render_remark {comment : String} (unquoted : quote ∉ comment.toList)
    (number : Nat) : quote ∉ ((remark comment).render dialect number).toList := by
  have mark : quote ≠ '-' ∧ quote ≠ ' ' ∧ quote ≠ '\n' := by
    refine ⟨?_, ?_, ?_⟩ <;> rintro rfl <;> exact absurd foreign (by decide)
  simp [render, mark, unquoted]

/-- The reader finds the identifiers of a piece, unless a quote after them makes one of
its own. -/
theorem readRegions_render (quoting : dialect.quote = some quote) {piece : Piece}
    (unquoted : piece.IsUnquoted quote) (number : Nat) {rest : List Char}
    (ends : piece.segments = [] ∨ rest.head? ≠ some quote) :
    readRegions quote .outside ((piece.render dialect number).toList ++ rest) =
      (readRegions quote .outside rest).map (piece.segments ++ ·) := by
  have skipped : ∀ {chars}, quote ∉ chars → readRegions quote .outside (chars ++ rest) =
      (readRegions quote .outside rest).map ([] ++ ·) := by
    intro chars absent
    rw [readRegions_append absent]
    simp
  cases piece with
  | text content => exact skipped unquoted
  | remark comment => exact skipped (not_mem_render_remark foreign unquoted number)
  | value bound => exact skipped (not_mem_token foreign number)
  | name identifier =>
    simp only [segments, List.cons_ne_self, false_or] at ends
    simpa [render, Dialect.quoteIdentifier, quoting, segments] using
      readRegions_encode_append identifier ends
  | unnamedColumn =>
    simp only [segments, reduceCtorEq, false_or] at ends
    have blank : quote ∉ [' '] := by
      simp only [List.mem_singleton]
      rintro rfl
      exact absurd foreign (by decide)
    have read := readRegions_append blank ((encode quote "").toList ++ rest)
    rw [readRegions_encode_append "" ends] at read
    simpa [render, Dialect.quoteIdentifier, quoting, segments] using read

end Piece

namespace Path

variable {allowed : Piece → Prop} {dialect : Dialect} {quote : Char} {pieces : List Piece}
  (foreign : isForeign quote)
include foreign

/-- What comes after an identifier does not begin with a quote. -/
theorem head_render_ne {depth : Nat} {stop : Place}
    (path : Path allowed ⟨depth, false⟩ pieces stop) (number : Nat) :
    (Draft.render dialect number pieces).toList.head? ≠ some quote := by
  intro head
  obtain ⟨sign, _⟩ := path.head_render head
  simp [isForeign, sign] at foreign

/-- Identifiers do not touch: a piece has none, or no quote follows it. -/
theorem segments_or_head_render_ne (dialect : Dialect) {start next stop : Place} {piece : Piece}
    (step : piece.Leads allowed start next) (path : Path allowed next pieces stop) (number : Nat) :
    piece.segments = [] ∨ (Draft.render dialect number pieces).toList.head? ≠ some quote := by
  cases step with
  | firm | remark | value => exact .inl rfl
  | supplied | unnamedColumn => exact .inr (path.head_render_ne foreign number)

/-- The reader finds the identifiers of all pieces, in their order. -/
theorem readRegions_render (quoting : dialect.quote = some quote) {start stop : Place}
    (path : Path allowed start pieces stop) (unquoted : ∀ piece ∈ pieces, piece.IsUnquoted quote)
    (number : Nat) :
    readRegions quote .outside (Draft.render dialect number pieces).toList =
      some (pieces.flatMap Piece.segments) := by
  induction path generalizing number with
  | nil => rfl
  | loosen => rfl
  | @cons _ next _ piece rest step path ih =>
    have others := ih (fun piece member => unquoted piece (by simp [member]))
      (number + piece.values.length)
    have ends := segments_or_head_render_ne foreign dialect step path
      (number + piece.values.length)
    have first := piece.readRegions_render foreign quoting (unquoted piece (by simp)) number ends
    rw [Draft.render, String.toList_append, first, others, List.flatMap_cons, Option.map_some]

end Path

/-- What is written for a mention has no quotes of its own if its exposed texts have
none. -/
theorem Mention.Writes.isUnquoted {mention : Mention} {piece : Piece} {quote : Char}
    (writes : mention.Writes piece) (unquoted : ∀ text ∈ mention.exposed, quote ∉ text.toList) :
    piece.IsUnquoted quote := by
  cases writes with
  | exposed among => exact unquoted _ among
  | remark among => exact unquoted _ among
  | segment | unnamedColumn => trivial

namespace Statement

/-- The quoted regions of what compiles hold the identifiers that the statement mentions,
in the order of the text, and the text ends outside of them. -/
theorem regions_compile {statement : Statement} {compiled : Compiled}
    (unquoted : ∀ mention ∈ statement.mentions, ∀ text ∈ mention.exposed, '\x60' ∉ text.toList)
    (success : statement.compile .mysql = .ok compiled) :
    regions? '\x60' compiled.sql = some (statement.mentions.flatMap Mention.segments) := by
  obtain ⟨finished, sql, -⟩ := compile_eq_ok_iff.mp success
  have shows := statement.shows_draft
  have foreign : isForeign '\x60' := by decide
  have path : Path (fun _ => True) ⟨0, true⟩ statement.draft.pieces ⟨0, false⟩ :=
    level_draft (fun _ _ _ _ => trivial) 0 finished
  have plain : ∀ piece ∈ statement.draft.pieces, piece.IsUnquoted '\x60' := by
    intro piece member
    obtain sign | ⟨mention, among, writes⟩ := shows.origin piece member
    · exact Piece.isUnquoted_of_isSign foreign sign
    · exact writes.isUnquoted (unquoted mention among)
  rw [regions?, sql, path.readRegions_render foreign rfl plain, shows.segments finished]

/-- A statement of which some identifiers are quotes, have points, or are empty. -/
def ticked : Statement :=
  let source : Table := { name := "a`b.c", aliasName := some "`" }
  .select
    { table := some source
      comment := some "all of it"
      link := {}
      columns := some
        [{ name := "", table := some source }, { name := "max(n)", aliasName := some "n.`" }]
      queryColumns :=
        [{ select := { table := some { name := "``" }, link := {} }
           aliasName := "q" }]
      joins :=
        [{ table := some { name := "d" }
           joinType := some .left
           link := { literals := ["1 = 1"] } }]
      filter := some
        { memberships :=
            [{ subject := { name := "x.y" }, values := [.null], negated := true },
              { subject := { name := "z" }, values := [], negated := false }] } }

theorem regions_compile_ticked :
    ∃ compiled, ticked.compile .mysql = .ok compiled ∧
      regions? '\x60' compiled.sql =
        some ["`", "", "n.`", "``", "``", "q", "a`b", "c", "`", "d", "x.y"] :=
  ⟨_, rfl, (@regions_compile ticked _ (by decide +kernel) rfl).trans (by decide +kernel)⟩

end Statement

end BoundSql
