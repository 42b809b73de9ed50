import BoundSql.Layout
import BoundSql.Proofs.Layout.Reader
import BoundSql.Proofs.Mention.Quoting
/-!
# Laying out a text with quoted regions

Two readers of quoted regions are run beside the scan that lays out a text: one takes the
text, the other what the scan writes.  They agree after every character as long as the scan
starts no line inside a region.  It does so only at a parenthesis, or at a clause keyword
after a blank.
-/

namespace BoundSql

open Text.Quoted

namespace Layout

variable {quote : Char} {indent : Nat}

/-- No region of a text has a parenthesis or, after a blank, a clause keyword in it. -/
def Calm (quote : Char) : RegionReader → List Char → Prop
  | _, [] => True
  | reader, char :: rest =>
    (reader.IsInside →
      char ≠ '(' ∧ char ≠ ')' ∧ (Text.isBlank char → clause? rest = none)) ∧
    Calm quote (reader.read quote char) rest

theorem isUpper_of_clause? {char : Char} {rest : List Char}
    {found : List Char × List Char} (starts : clause? (char :: rest) = some found) :
    char.isUpper := by
  obtain ⟨word, among, result⟩ := List.exists_of_findSome?_eq_some starts
  have heads : ∀ word ∈ keywords, word.head?.any Char.isUpper := by decide
  have upper := heads word among
  cases word with
  | nil => cases upper
  | cons first tail =>
    have leads : (first :: tail).isPrefixOf (char :: rest) := by
      by_contra missing
      simp [afterWord?, missing] at result
    simp only [List.isPrefixOf_cons_cons, Bool.and_eq_true, beq_iff_eq] at leads
    exact leads.1 ▸ upper

theorem ne_of_isSign (foreign : isForeign quote) {char : Char} (sign : isSign char) :
    char ≠ quote := by
  rintro rfl
  simp [isForeign, sign] at foreign

namespace State

/-- The reader after what has been written. -/
def reader (quote : Char) (state : State) : RegionReader :=
  .after quote state.written

theorem reader_push (state : State) (char : Char) :
    (state.push char).reader quote = (state.reader quote).read quote char := rfl

/-- A new line outside of regions settles the reader. -/
theorem reader_breakLine (space : ' ' ≠ quote) (newline : '\n' ≠ quote) {state : State}
    (free : ¬ (state.reader quote).IsInside) :
    (state.breakLine indent).reader quote = (state.reader quote).settled := by
  obtain ⟨keptFree, same⟩ := RegionReader.after_dropWhile space free
  rw [reader, breakLine]
  generalize state.written.dropWhile (· == ' ') = kept at keptFree same
  rw [reader, ← same]
  have settles : ∀ ended, RegionReader.after quote ended = (RegionReader.after quote kept).settled →
      RegionReader.after quote (List.replicate (indent * state.parentheses.length) ' ' ++ ended) =
        (RegionReader.after quote kept).settled := by
    intro ended reaches
    rw [RegionReader.after_replicate space, reaches]
    · rw [reaches]
      exact RegionReader.not_isInside_settled keptFree
    · rw [reaches, RegionReader.settled_settled]
  split
  · exact settles [] rfl
  · next rest =>
    refine settles ('\n' :: rest) ?_
    obtain ⟨-, last⟩ := RegionReader.after_cons_of_ne newline keptFree
    rw [last, RegionReader.settled_settled]
  · exact settles ('\n' :: kept) (RegionReader.read_of_ne keptFree newline)

theorem reader_openParenthesis (foreign : isForeign quote) {state : State}
    (free : ¬ (state.reader quote).IsInside) (rest : List Char) :
    (state.openParenthesis indent rest).reader quote = (state.reader quote).settled := by
  have opened : (state.reader quote).read quote '(' = (state.reader quote).settled :=
    RegionReader.read_of_ne free (ne_of_isSign foreign (by decide))
  unfold openParenthesis
  simp only
  split
  · rw [reader_breakLine (ne_of_isSign foreign (by decide)) (ne_of_isSign foreign (by decide))]
    · exact (congrArg RegionReader.settled opened).trans (RegionReader.settled_settled _)
    · exact fun inside => RegionReader.not_isInside_settled free (opened ▸ inside)
  · exact opened

theorem reader_closeParenthesis (foreign : isForeign quote) {state : State}
    (free : ¬ (state.reader quote).IsInside) :
    (state.closeParenthesis indent).reader quote = (state.reader quote).settled := by
  have other : ')' ≠ quote := ne_of_isSign foreign (by decide)
  unfold closeParenthesis
  simp only [reader_push]
  split
  · rw [reader_breakLine (ne_of_isSign foreign (by decide)) (ne_of_isSign foreign (by decide))]
    · exact (RegionReader.read_of_ne (RegionReader.not_isInside_settled free) other).trans
        (RegionReader.settled_settled _)
    · exact free
  · exact RegionReader.read_of_ne free other

theorem reader_copy (foreign : isForeign quote) {state : State} {char : Char}
    (rest : List Char) (flat : (state.reader quote).IsInside → char ≠ '(' ∧ char ≠ ')') :
    (state.copy indent char rest).reader quote = (state.reader quote).read quote char := by
  unfold copy
  split
  · rfl
  · have free : ¬ (state.reader quote).IsInside := fun inside => (flat inside).1 rfl
    rw [reader_openParenthesis foreign free,
      RegionReader.read_of_ne free (ne_of_isSign foreign (by decide))]
  · have free : ¬ (state.reader quote).IsInside := fun inside => (flat inside).2 rfl
    rw [reader_closeParenthesis foreign free,
      RegionReader.read_of_ne free (ne_of_isSign foreign (by decide))]
  · rfl

/-- The readers agree after a character.  Where a line is started they are not inside a
region, and the next character is no quote. -/
theorem reader_step (foreign : isForeign quote) {state : State} {char : Char} {rest : List Char}
    (flat : (state.reader quote).IsInside → char ≠ '(' ∧ char ≠ ')')
    (goesOn : (state.reader quote).IsInside → state.mode = .plain true →
      clause? (char :: rest) = none) :
    (state.step indent char rest).reader quote = (state.reader quote).read quote char := by
  unfold step
  split
  · rfl
  · rfl
  · rfl
  · exact reader_copy foreign rest flat
  · next atStart =>
    split
    · rfl
    · split
      · next starts =>
        have free : ¬ (state.reader quote).IsInside := fun inside => by
          rw [goesOn inside atStart] at starts
          cases starts
        have other : char ≠ quote :=
          ne_of_isSign foreign (by simp [isSign, isUpper_of_clause? starts])
        show ((state.breakLine indent).reader quote).read quote char = _
        rw [reader_breakLine (ne_of_isSign foreign (by decide))
          (ne_of_isSign foreign (by decide)) free,
          RegionReader.read_of_ne (RegionReader.not_isInside_settled free) other,
          RegionReader.settled_settled, RegionReader.read_of_ne free other]
      · exact reader_copy foreign rest flat

theorem mode_copy {state : State} {char : Char} {rest : List Char}
    (starts : (state.copy indent char rest).mode = .plain true) :
    Text.isBlank char ∨ char = '(' := by
  unfold copy at starts
  split at starts
  · cases starts
  · exact .inr rfl
  · have closed : (state.closeParenthesis indent).mode = .plain false := by
      unfold closeParenthesis
      simp only [push]
      split <;> rfl
    rw [closed] at starts
    cases starts
  · exact .inl (Mode.plain.inj starts)

/-- After a character a word can start only if it is a blank or opens a parenthesis. -/
theorem mode_step {state : State} {char : Char} {rest : List Char}
    (starts : (state.step indent char rest).mode = .plain true) :
    Text.isBlank char ∨ char = '(' := by
  unfold step at starts
  split at starts
  · simp only at starts
    split at starts <;> cases starts
  · simp only at starts
    split at starts
    · next newline => exact .inl (newline ▸ by decide)
    · cases starts
  · simp only at starts
    split at starts <;> cases starts
  · exact mode_copy starts
  · split at starts
    · cases starts
    · split at starts
      · cases starts
      · exact mode_copy starts

end State

/-- The readers agree after the whole text. -/
theorem reader_scan (foreign : isForeign quote) (solid : Text.isBlank quote = false)
    {chars : List Char} {state : State} (calm : Calm quote (state.reader quote) chars)
    (goesOn : (state.reader quote).IsInside → state.mode = .plain true →
      clause? chars = none) :
    (scan indent state chars).reader quote =
      chars.foldl (RegionReader.read quote) (state.reader quote) := by
  induction chars generalizing state with
  | nil => rfl
  | cons char rest ih =>
    obtain ⟨own, others⟩ := calm
    have next : (state.step indent char rest).reader quote =
        (state.reader quote).read quote char :=
      State.reader_step foreign (fun inside => ⟨(own inside).1, (own inside).2.1⟩) goesOn
    rw [scan, List.foldl_cons, ← next]
    refine ih (next ▸ others) fun inside starts => ?_
    rw [next] at inside
    by_cases before : (state.reader quote).IsInside
    · obtain ⟨opens, -, clause⟩ := own before
      exact clause ((State.mode_step starts).resolve_right opens)
    · -- The character opened a region, so that it is a quote.
      have same : char = quote := by
        by_contra other
        rw [RegionReader.read_of_ne before other] at inside
        exact RegionReader.not_isInside_settled before inside
      rcases State.mode_step starts with blank | opens
      · rw [same, solid] at blank
        cases blank
      · exact absurd (opens.symm.trans same) (ne_of_isSign foreign (by decide))

/-- Laying out a text leaves its quoted regions as they are. -/
theorem regions?_format (foreign : isForeign quote) (solid : Text.isBlank quote = false)
    {sql : String} (calm : Calm quote {} sql.toList) :
    regions? quote (format indent sql) = regions? quote sql := by
  have same : (scan indent {} sql.toList).reader quote =
      sql.toList.foldl (RegionReader.read quote) {} :=
    reader_scan foreign solid calm fun inside => inside.elim
  rw [RegionReader.regions?_eq, RegionReader.regions?_eq, format, String.toList_ofList,
    List.foldl_reverse]
  exact congrArg RegionReader.result? same

end Layout

end BoundSql
