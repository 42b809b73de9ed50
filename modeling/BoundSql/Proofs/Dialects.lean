import BoundSql.Proofs.Mention.Statement
import BoundSql.Proofs.Placeholder.Numbering
/-!
# What a dialect changes

Dialects differ in the quotes around identifiers, and in nothing else: what is lacking
and what is bound does not depend on the dialect, and the text without the quotes is
that of the generic dialect.

The quotes of a column without a name are all that there is of it.  Where a SELECT
returns just such a column, they come with a blank, which the generic dialect leaves out.
-/

namespace BoundSql

namespace Text

/-- A text without one of its characters. -/
def without (char : Char) (text : String) : String :=
  String.ofList (text.toList.filter (· != char))

@[simp] theorem without_empty (char : Char) : without char "" = "" := rfl

@[simp] theorem without_append (char : Char) (first second : String) :
    without char (first ++ second) = without char first ++ without char second := by
  simp [without]

theorem without_of_not_mem {char : Char} {text : String} (absent : char ∉ text.toList) :
    without char text = text := by
  have kept : text.toList.filter (· != char) = text.toList := by
    rw [List.filter_eq_self]
    intro other member
    exact bne_iff_ne.mpr fun same => absent (same ▸ member)
  rw [without, kept, String.ofList_toList]

namespace Quoted

/-- Quotes are doubled by quotes. -/
theorem filter_double (quote : Char) (chars : List Char) :
    (double quote chars).filter (· != quote) = chars.filter (· != quote) := by
  induction chars with
  | nil => rfl
  | cons char rest ih =>
    by_cases same : char = quote
    · simp [double, same, ih]
    · simp [double, same, ih]

theorem without_encode (quote : Char) (text : String) :
    without quote (encode quote text) = without quote text := by
  simp [without, encode, filter_double]

end Quoted

end Text

variable {dialect : Dialect} {quote : Char}

/-- Without the quotes, all pieces but one are the same in all dialects. -/
theorem Piece.without_render (quoting : dialect.quote = some quote) {piece : Piece}
    (named : piece ≠ .unnamedColumn) (number : Nat) :
    Text.without quote (piece.render dialect number) =
      Text.without quote (piece.render .generic number) := by
  cases piece with
  | name identifier =>
    simp [render, Dialect.quoteIdentifier, Dialect.generic, quoting, Text.Quoted.without_encode]
  | unnamedColumn => exact absurd rfl named
  | text | value | remark => rfl

theorem Draft.without_render (quoting : dialect.quote = some quote) {pieces : List Piece}
    (named : .unnamedColumn ∉ pieces) (number : Nat) :
    Text.without quote (render dialect number pieces) =
      Text.without quote (render .generic number pieces) := by
  induction pieces generalizing number with
  | nil => rfl
  | cons piece rest ih =>
    simp only [List.mem_cons, not_or] at named
    simp only [render, Text.without_append, ih named.2,
      Piece.without_render quoting (Ne.symm named.1)]

namespace Statement

/-- An unnamed column is written only if a column without a name is mentioned. -/
theorem not_mem_unnamedColumn {statement : Statement}
    (named : ∀ column ∈ statement.mentionedColumns, column.name ≠ "") :
    .unnamedColumn ∉ statement.draft.pieces := by
  intro member
  obtain sign | ⟨mention, among, writes⟩ := statement.shows_draft.origin _ member
  · exact sign
  · cases writes with
    | unnamedColumn same unnamed =>
      exact named _ (List.mem_filterMap.mpr ⟨_, same ▸ among, rfl⟩) unnamed

/-- In all dialects, a statement compiles with the same parameters or fails with the same
error.  If it mentions no column without a name, then its text without the quotes is that of
the generic dialect, where this has no such character of its own. -/
theorem compile_dialects (statement : Statement) :
    (∀ first second : Dialect,
        (statement.compile first).map Compiled.parameters =
          (statement.compile second).map Compiled.parameters) ∧
      ((∀ column ∈ statement.mentionedColumns, column.name ≠ "") →
        ∀ (dialect : Dialect) (quote : Char) (plain : Compiled), dialect.quote = some quote →
          statement.compile .generic = .ok plain → quote ∉ plain.sql.toList →
          (statement.compile dialect).map (fun compiled => Text.without quote compiled.sql) =
            .ok plain.sql) := by
  constructor
  · intro first second
    rw [compile_eq, compile_eq]
    cases statement.draft.failure <;> rfl
  · intro named dialect quote plain quoting success absent
    obtain ⟨finished, sql, -⟩ := compile_eq_ok_iff.mp success
    have unnamed := not_mem_unnamedColumn named
    have same : Text.without quote (Draft.render dialect 1 statement.draft.pieces) = plain.sql :=
      calc Text.without quote (Draft.render dialect 1 statement.draft.pieces)
          = Text.without quote plain.sql := by rw [sql, Draft.without_render quoting unnamed]
        _ = plain.sql := Text.without_of_not_mem absent
    simp only [compile_eq, finished, Except.map, same]

/-- A SELECT from a view of which the alias has a quote in it. -/
def quotedView : Statement :=
  let view : Table := { name := "v", schema := some "s", aliasName := some "w" }
  .select
    { table := some view
      link := {}
      columns := some [{ name := "a b", table := some view, aliasName := some "c" }]
      filter := some { nullChecks := [{ subject := { name := "d" }, negated := true }] }
      window := { count := some 1 } }

/-- The double quote is that of a dialect which is none of the built-in ones. -/
theorem compile_dialects_quotedView :
    (quotedView.compile .mysql).map Compiled.parameters =
        (quotedView.compile ⟨"ansi", some '"'⟩).map Compiled.parameters ∧
      (quotedView.compile ⟨"ansi", some '"'⟩).map (fun compiled => Text.without '"' compiled.sql) =
        .ok "SELECT w.a b AS c FROM s.v AS w WHERE (d IS NOT NULL) LIMIT :v1, :v2" := by
  have dialects := compile_dialects quotedView
  exact ⟨dialects.1 _ _, dialects.2 (by decide +kernel) _ '"' _ rfl rfl (by decide +kernel)⟩

end Statement

end BoundSql
