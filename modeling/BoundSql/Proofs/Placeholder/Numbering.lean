import BoundSql.Proofs.Draft.Statements
import BoundSql.Proofs.Path.Statement
import BoundSql.Proofs.Placeholder.Spelling
import Mathlib.Data.List.Nodup
/-!
# The numbering of placeholders

The placeholders in the text of a compiled statement are numbered from one in the
order of the text, each occurs once, and they are those of the parameters.
-/

namespace BoundSql

namespace Parameters

/-- Values that are bound after one another get the tokens that follow. -/
theorem tokens_bindAll (parameters : Parameters) (values : List Value) :
    (parameters.bindAll values).tokens =
      parameters.tokens ++ (List.range' parameters.next values.length).map token := by
  simp [tokens, entries_bindAll]

theorem nodup_tokens (first count : Nat) : ((List.range' first count).map token).Nodup :=
  List.Nodup.map (fun _ _ => token_injective) (List.nodup_range' ..)

end Parameters

namespace Statement

variable {statement : Statement} {dialect : Dialect}

/-- What compiles is what lacks nothing. -/
theorem compile_eq_ok_iff {compiled : Compiled} :
    statement.compile dialect = .ok compiled ↔
      statement.draft.failure = none ∧
        compiled.sql = Draft.render dialect 1 statement.draft.pieces ∧
        compiled.parameters = ({} : Parameters).bindAll statement.draft.values := by
  rw [compile_eq]
  cases statement.draft.failure with
  | none =>
    obtain ⟨sql, parameters⟩ := compiled
    simp [eq_comm]
  | some lack => simp

/-- If no supplied text has a colon, then the path of the draft meets none but those
of the placeholders. -/
theorem path_of_colonless (quote : dialect.quote ≠ some ':')
    (colonless : ∀ given ∈ statement.supplied, ':' ∉ given.text.toList)
    (finished : statement.draft.failure = none) :
    Path (Piece.IsColonless dialect) ⟨0, true⟩ statement.draft.pieces ⟨0, false⟩ :=
  level_draft (Supplied.within_isColonless quote colonless) 0 finished

/-- The placeholders of the text are numbered from one as they come, and are those of
the parameters. -/
theorem placeholders_compile {compiled : Compiled} (quote : dialect.quote ≠ some ':')
    (colonless : ∀ given ∈ statement.supplied, ':' ∉ given.text.toList)
    (success : statement.compile dialect = .ok compiled) :
    Text.placeholders compiled.sql = compiled.parameters.tokens ∧
      compiled.parameters.tokens = (List.range' 1 compiled.parameters.size).map token ∧
      compiled.parameters.tokens.Nodup := by
  obtain ⟨finished, text, bound⟩ := compile_eq_ok_iff.mp success
  have path := path_of_colonless quote colonless finished
  have size : compiled.parameters.size = statement.draft.values.length := by
    simp [bound, Parameters.size]
  have tokens : compiled.parameters.tokens =
      (List.range' 1 compiled.parameters.size).map token := by
    rw [size, bound, Parameters.tokens_bindAll]
    rfl
  refine ⟨?_, tokens, tokens ▸ Parameters.nodup_tokens _ _⟩
  rw [text, path.placeholders_render quote, tokens, size]
  rfl

end Statement

/-- A SELECT that binds values in each of its parts and in those of its join. -/
def Select.sample : Select :=
  let orders : Table := { name := "orders", aliasName := some "o" }
  let items : Table := { name := "items", schema := some "shop" }
  { table := some orders
    comment := some "each part binds"
    link := {}
    columns := some [{ name := "id", table := some orders }]
    valueColumns := [{ value := .text "fresh", aliasName := "state" }]
    queryColumns :=
      [{ select :=
          { table := some items
            link := {}
            count := some { column := none, aliasName := none }
            filter := some
              { ranges :=
                  [{ subject := { name := "price", table := some items }
                     low := .integer 1
                     high := .integer 9
                     negated := false }] } }
         aliasName := "cheap" }]
    joins :=
      [{ table := some items
         joinType := some .left
         link :=
          { comparisons :=
              [{ subject := { name := "order", table := some items }
                 relation := .equals
                 target := .column { name := "id", table := some orders } }] }
         filter := some
          { conjunction := .or
            comparisons :=
              [{ subject := { name := "kind", table := some items }
                 relation := .like
                 target := .value (.text "a%") }]
            memberships :=
              [{ subject := { name := "size", table := some items }
                 values := [.integer 3, .bool true]
                 negated := true }] } }]
    filter := some
      { existences := [{ select := { table := some items, link := {} }, negated := true }]
        literals := ["1 = 1"]
        subconditions :=
          [{ conjunction := .orNot
             searches :=
              [{ columns := [{ name := "note" }]
                 values := [.text "big", .integer 7]
                 mode := .boolean }] }] }
    window := { count := some 10 } }

namespace Statement

theorem placeholders_compile_sample :
    ∃ compiled, (Statement.select .sample).compile .mysql = .ok compiled ∧
      compiled.parameters.size = 9 ∧
      Text.placeholders compiled.sql = compiled.parameters.tokens ∧
      compiled.parameters.tokens = (List.range' 1 compiled.parameters.size).map token ∧
      compiled.parameters.tokens.Nodup :=
  ⟨_, rfl, by decide +kernel,
    @placeholders_compile (.select .sample) .mysql _ (by decide) (by decide +kernel) rfl⟩

end Statement

end BoundSql
