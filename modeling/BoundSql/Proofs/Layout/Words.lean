import BoundSql.Proofs.Layout.Scan
/-!
# Words at the start of a text

When a text begins with a word, in particular with a clause keyword: the word is spelled out
and ends there.
-/

namespace BoundSql

namespace Layout

/-- Whether a word before this text ends there. -/
def endsWord : List Char → Bool
  | [] => true
  | next :: _ => Text.isBlank next || next == '('

theorem afterWord?_eq_some_iff {word chars rest : List Char} :
    afterWord? word chars = some rest ↔ chars = word ++ rest ∧ endsWord rest := by
  unfold afterWord?
  constructor
  · intro found
    split at found
    · next leads =>
      obtain ⟨after, rfl⟩ := List.isPrefixOf_iff_prefix.mp leads
      rw [List.drop_left] at found
      cases after with
      | nil =>
        cases found
        exact ⟨rfl, rfl⟩
      | cons next after =>
        simp only [Option.ite_none_right_eq_some, Option.some.injEq] at found
        obtain ⟨ends, rfl⟩ := found
        exact ⟨rfl, ends⟩
    · cases found
  · rintro ⟨rfl, ends⟩
    have leads : word.isPrefixOf (word ++ rest) = true := by simp
    rw [if_pos leads, List.drop_left]
    cases rest with
    | nil => rfl
    | cons next rest => exact if_pos ends

theorem startsSubquery_iff {chars : List Char} :
    startsSubquery chars ↔ ∃ rest, chars = "SELECT".toList ++ rest ∧ endsWord rest := by
  simp [startsSubquery, Option.isSome_iff_exists, afterWord?_eq_some_iff]

theorem letters_of_all {word : List Char}
    (all : word.all fun char => char.isUpper || char == ' ') :
    ∀ char ∈ word, char.isUpper ∨ char = ' ' := by
  intro char among
  simpa using List.all_eq_true.mp all char among

/-- Keywords are written in capitals and spaces, with capitals at both ends. -/
theorem spelling_of_keyword {word : List Char} (among : word ∈ keywords) :
    (∃ first tail, word = first :: tail ∧ first.isUpper ∧ tail ≠ []) ∧
      (∃ front last, word = front ++ [last] ∧ last.isUpper) ∧
      ∀ char ∈ word, char.isUpper ∨ char = ' ' := by
  have spelling : ∀ word ∈ keywords, (word.head?.any Char.isUpper ∧ word.tail ≠ []) ∧
      word.getLast?.any Char.isUpper ∧ word.all fun char => char.isUpper || char == ' ' := by
    decide
  obtain ⟨first, last, within⟩ := spelling word among
  refine ⟨?_, ?_, letters_of_all within⟩
  · cases word with
    | nil => cases first.1
    | cons char tail => exact ⟨char, tail, rfl, first⟩
  · rcases word.eq_nil_or_concat with rfl | ⟨front, char, rfl⟩
    · cases last
    · exact ⟨front, char, by simp, by simpa using last⟩

/-- No keyword begins with another one. -/
theorem eq_of_keywords {first second rest others : List Char} (among : first ∈ keywords)
    (amongToo : second ∈ keywords) (same : first ++ rest = second ++ others) :
    first = second := by
  have apart : ∀ first ∈ keywords, ∀ second ∈ keywords, first.isPrefixOf second →
      first = second := by decide
  rcases List.append_eq_append_iff.mp same with ⟨more, longer, -⟩ | ⟨more, longer, -⟩
  · exact apart first among second amongToo (by simp [longer])
  · exact (apart second amongToo first among (by simp [longer])).symm

theorem clause?_eq_some_iff {chars word rest : List Char} :
    clause? chars = some (word, rest) ↔
      word ∈ keywords ∧ chars = word ++ rest ∧ endsWord rest := by
  unfold clause?
  constructor
  · intro found
    obtain ⟨among, member, result⟩ := List.exists_of_findSome?_eq_some found
    obtain ⟨after, leads, same⟩ := Option.map_eq_some_iff.mp result
    cases same
    exact ⟨member, afterWord?_eq_some_iff.mp leads⟩
  · rintro ⟨member, leads, ends⟩
    have found : (clause? chars).isSome := by
      rw [clause?, List.findSome?_isSome_iff]
      exact ⟨word, member, by simp [afterWord?_eq_some_iff.mpr ⟨leads, ends⟩]⟩
    obtain ⟨⟨other, after⟩, result⟩ := Option.isSome_iff_exists.mp found
    obtain ⟨among, memberToo, leadsToo⟩ := List.exists_of_findSome?_eq_some result
    obtain ⟨_, leadsToo, same⟩ := Option.map_eq_some_iff.mp leadsToo
    cases same
    have also := (afterWord?_eq_some_iff.mp leadsToo).1
    obtain rfl := eq_of_keywords member memberToo (leads.symm.trans also)
    rw [List.append_cancel_left (leads.symm.trans also)]
    exact result

theorem clause?_eq_none_iff {chars : List Char} :
    clause? chars = none ↔
      ∀ word ∈ keywords, ∀ rest, chars = word ++ rest → endsWord rest = false := by
  rw [Option.eq_none_iff_forall_ne_some]
  constructor
  · intro none word among rest leads
    by_contra ends
    exact none (word, rest) (clause?_eq_some_iff.mpr ⟨among, leads, by simpa using ends⟩)
  · rintro none ⟨word, rest⟩ found
    obtain ⟨among, leads, ends⟩ := clause?_eq_some_iff.mp found
    rw [none word among rest leads] at ends
    cases ends

/-- Whether a text begins with no word that the layout knows. -/
def beginsNothing (chars : List Char) : Prop :=
  startsComment chars = false ∧ clause? chars = none

theorem startsComment_cons_iff {char : Char} {rest : List Char} :
    startsComment (char :: rest) ↔ char = '-' ∧ rest.head? = some '-' := by
  cases rest with
  | nil => simp [startsComment, List.isPrefixOf]
  | cons next rest =>
    simpa [startsComment, List.isPrefixOf] using and_congr eq_comm eq_comm

theorem beginsNothing_of_ne {char : Char} (dash : char ≠ '-') (small : char.isUpper = false)
    (rest : List Char) : beginsNothing (char :: rest) := by
  refine ⟨by simp [← Bool.not_eq_true, startsComment_cons_iff, dash], ?_⟩
  by_contra found
  obtain ⟨found, starts⟩ := Option.ne_none_iff_exists'.mp found
  rw [isUpper_of_clause? starts] at small
  cases small

end Layout

end BoundSql
