import BoundSql.Proofs.Placeholder.Numbering
/-!
# Values in the places of placeholders

A statement can be rendered without any parameters, with each value written in the
place where it belongs.  Compiling it and then putting what is bound to each
placeholder in the place of that gives the same text.
-/

namespace BoundSql

/-- A value as it is bound, written between brackets. -/
def Value.bracketed (literal : Value → String) (value : Value) : String :=
  "[" ++ literal value.normalized ++ "]"

/-- A piece with its value in place. -/
def Piece.inlined (dialect : Dialect) (literal : Value → String) : Piece → String
  | .value bound => bound.bracketed literal
  | piece => piece.render dialect 0

/-- A statement rendered with all values in place. -/
def Statement.inlined (dialect : Dialect) (literal : Value → String) (statement : Statement) :
    Except Error String :=
  match statement.draft.failure with
  | none => .ok (String.join (statement.draft.pieces.map (Piece.inlined dialect literal)))
  | some lack => .error (.missingContext lack)

/-- A compiled statement with what is bound to each placeholder put in its place. -/
def Compiled.inlined (literal : Value → String) (compiled : Compiled) : String :=
  Text.replacePlaceholders
    (fun token =>
      match compiled.parameters.get? token with
      | some value => "[" ++ literal value ++ "]"
      | none => token)
    compiled.sql

/-! ### Looking up -/

namespace Parameters

theorem find?_number (first index : Nat) (values : List Value) :
    ((number first values).find? fun entry => entry.1 == token (first + index)).map Prod.snd =
      values[index]? := by
  induction values generalizing first index with
  | nil => rfl
  | cons value rest ih =>
    cases index with
    | zero => simp [number]
    | succ index =>
      have later : token first ≠ token (first + (index + 1)) :=
        fun same => absurd (token_injective same) (by omega)
      have next := ih (first + 1) index
      rw [Nat.add_assoc, Nat.add_comm 1 index] at next
      simpa [number, later] using next

/-- The value bound to a placeholder is the one of its number. -/
theorem get?_bindAll (values : List Value) (index : Nat) :
    (({} : Parameters).bindAll values).get? (token (1 + index)) =
      values[index]?.map Value.normalized := by
  simpa [get?, entries_bindAll] using find?_number 1 index (values.map Value.normalized)

end Parameters

namespace Draft

/-- A spelling that gives each value its literal puts the values in their places. -/
theorem spell_eq_inlined (dialect : Dialect) (literal : Value → String)
    (spelling : Nat → String) (number : Nat) (pieces : List Piece)
    (agree : ∀ index bound, (pieces.flatMap Piece.values)[index]? = some bound →
      spelling (number + index) = bound.bracketed literal) :
    spell dialect (fun number _ => spelling number) number pieces =
      String.join (pieces.map (Piece.inlined dialect literal)) := by
  induction pieces generalizing number with
  | nil => simp [spell]
  | cons piece rest ih =>
    cases piece with
    | value bound =>
      have first : spelling number = bound.bracketed literal :=
        agree 0 bound (by simp [Piece.values])
      have others := ih (number + 1) fun index bound found => by
        rw [Nat.add_assoc, Nat.add_comm 1 index]
        exact agree (index + 1) bound (by simpa [Piece.values] using found)
      simp [spell, Piece.spell, Piece.inlined, Piece.values, first, others]
    | _ =>
      have others := ih number fun index bound found =>
        agree index bound (by simpa [Piece.values] using found)
      simp [spell, Piece.spell, Piece.inlined, Piece.values, Piece.render, others]

end Draft

namespace Statement

/-- Each placeholder carries the value of the place where it stands. -/
theorem inlined_compile {statement : Statement} {dialect : Dialect} (literal : Value → String)
    (quote : dialect.quote ≠ some ':')
    (colonless : ∀ given ∈ statement.supplied, ':' ∉ given.text.toList) :
    (statement.compile dialect).map (Compiled.inlined literal) =
      statement.inlined dialect literal := by
  rw [compile_eq]
  unfold inlined
  cases finished : statement.draft.failure with
  | some lack => rfl
  | none =>
    have path := path_of_colonless quote colonless finished
    simp only [Except.map, Compiled.inlined]
    rw [path.replacePlaceholders_render quote, Draft.spell_eq_inlined dialect literal]
    intro index bound found
    simp [Parameters.get?_bindAll, Draft.values, found, Value.bracketed]

theorem inlined_compile_update :
    ((Statement.update
        { table := { name := "t" }
          assignments := [{ column := { name := "a" }, value := .bool true }]
          filter := some
            { ranges :=
                [{ subject := { name := "b" }
                   low := .integer 1
                   high := .text ""
                   negated := false }] }
          limit := some 3 }).compile .generic).map (Compiled.inlined Value.display) =
      .ok "UPDATE t SET a = [1] WHERE (b BETWEEN [1] AND [NULL]) LIMIT [3]" :=
  (inlined_compile Value.display (by decide) (by decide +kernel)).trans (by decide +kernel)

end Statement

end BoundSql
