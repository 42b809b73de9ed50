import BoundSql.Proofs.Draft.Clauses
import BoundSql.Proofs.Path.Basic
/-!
# The pieces of supplied texts

What is written for a supplied text binds no value, and has no characters but those
of the text, the dialect's quotes, and what makes a comment of it.
-/

namespace BoundSql

theorem Dialect.mem_identifier {dialect : Dialect} {identifier : String} {char : Char}
    (inside : char ∈ (dialect.identifier identifier).toList) :
    char ∈ identifier.toList ∨ dialect.quote = some char := by
  unfold Dialect.identifier quoteIdentifier at inside
  split at inside
  · exact .inl inside
  · split at inside
    · exact .inl inside
    · rename_i quote quoting
      obtain rfl | inside := Text.Quoted.mem_encode inside
      · exact .inr quoting
      · exact .inl inside

namespace Supplied

/-- A supplied text is written as it is, as one identifier, as several of its parts,
or as a comment. -/
theorem cases_pieces {given : Supplied} {piece : Piece} (member : piece ∈ given.pieces) :
    piece = .text given.text ∨
      (∃ part, piece = .ofIdentifier part ∧ ∀ char ∈ part.toList, char ∈ given.text.toList) ∨
      piece = .remark given.text := by
  cases given with
  | identifier content => exact .inr (.inl ⟨content, by simpa [pieces] using member, fun _ => id⟩)
  | verbatim content => exact .inl (by simpa [pieces, text] using member)
  | comment content => exact .inr (.inr (by simpa [pieces, text] using member))
  | dotted content =>
    simp only [pieces] at member
    split at member
    · exact .inl (by simpa [text] using member)
    · obtain ⟨part, among, rfl⟩ := List.mem_map.mp member
      refine .inr (.inl ⟨_, rfl, fun char inside => ?_⟩)
      exact Text.mem_of_mem_split among (by simpa using inside)

theorem values_of_mem_pieces {given : Supplied} {piece : Piece} (member : piece ∈ given.pieces) :
    piece.values = [] := by
  obtain rfl | ⟨part, rfl, _⟩ | rfl := cases_pieces member
  · rfl
  · exact Piece.values_ofIdentifier part
  · rfl

/-- The characters of a supplied text where it is written. -/
theorem mem_render {dialect : Dialect} {given : Supplied} {piece : Piece}
    (member : piece ∈ given.pieces) {number : Nat} {char : Char}
    (inside : char ∈ (piece.render dialect number).toList) :
    char ∈ given.text.toList ∨ dialect.quote = some char ∨ char ∈ ['-', ' ', '\n'] := by
  obtain rfl | ⟨part, rfl, own⟩ | rfl := cases_pieces member
  · exact .inl inside
  · rw [Piece.render_ofIdentifier] at inside
    obtain inside | quoting := Dialect.mem_identifier inside
    · exact .inl (own char inside)
    · exact .inr (.inl quoting)
  · simp only [Piece.render, String.toList_append, List.mem_append] at inside
    obtain (lead | inside) | stop := inside
    · have : char = '-' ∨ char = ' ' := by simpa using lead
      exact .inr (.inr (by grind))
    · exact .inl inside
    · exact .inr (.inr (by simp_all))

end Supplied

end BoundSql
