import BoundSql.Proofs.Layout.Laid
import BoundSql.Text.Stretches
/-!
# Laying out changes only blanks

A text that is laid out has the quoted texts and the comments that it had before, and between
them the same characters in the same order, blanks apart.  Characters that a blank separated
are still separated.
-/

namespace BoundSql

open Text

namespace Text

theorem isBlank_of_isUpper {char : Char} (capital : char.isUpper) : isBlank char = false := by
  have bounds : 65 ≤ char.val ∧ char.val ≤ 90 := of_decide_eq_true capital
  have low : 65 ≤ char.toNat := UInt32.le_iff_toNat_le.mp bounds.1
  have high : char.toNat ≤ 90 := UInt32.le_iff_toNat_le.mp bounds.2
  by_contra blank
  simp only [isBlank, Bool.not_eq_false, Bool.or_eq_true, Bool.and_eq_true, decide_eq_true_eq,
    beq_iff_eq] at blank
  omega

theorem startsWord_of_isUpper {char : Char} (capital : char.isUpper) :
    startsWord char = false := by
  have other : char ≠ '(' := by
    rintro rfl
    cases capital
  simp [startsWord, isBlank_of_isUpper capital, other]

/-! ### Gaps -/

/-- The stretches of a text without its blanks outside of quotes and comments. -/
def solids (found : List Stretch) : List Stretch :=
  found.filter fun stretch => !stretch.isBlank

theorem solids_cons (stretch : Stretch) (others : List Stretch) :
    solids (stretch :: others) =
      if stretch.isBlank then solids others else stretch :: solids others := by
  cases blank : stretch.isBlank <;> simp [solids, blank]

theorem solids_append (first second : List Stretch) :
    solids (first ++ second) = solids first ++ solids second :=
  List.filter_append first second

theorem stretches_blank {char : Char} (blank : isBlank char) (atStart : Bool) (rest : List Char) :
    stretches atStart (char :: rest) = .other char :: stretches true rest := by
  have starts : startsWord char = true := by simp [startsWord, blank]
  rw [stretches_char (by rintro rfl; cases blank) (by rintro rfl; cases blank), starts]

/-- After blanks the same is found as at the start of a word. -/
theorem solids_gap {gap : List Char} (blank : ∀ char ∈ gap, isBlank char) {atStart after : Bool}
    (starts : after = if gap = [] then atStart else true) (rest : List Char) :
    solids (stretches atStart (gap ++ rest)) = solids (stretches after rest) := by
  induction gap generalizing atStart with
  | nil => simp [starts]
  | cons char gap ih =>
    have dropped : solids (stretches atStart (char :: (gap ++ rest))) =
        solids (stretches true (gap ++ rest)) := by
      rw [stretches_blank (blank char (by simp))]
      simp [solids, Stretch.isBlank, blank char (by simp)]
    rw [List.cons_append, dropped]
    exact ih (fun char among => blank char (by simp [among])) (by simp [starts])

/-- A keyword has no quotes and comments in it. -/
theorem stretches_letters {front : List Char}
    (letters : ∀ char ∈ front, char.isUpper ∨ char = ' ') {last : Char}
    (capital : last.isUpper) (atStart : Bool) (rest : List Char) :
    stretches atStart (front ++ last :: rest) =
      (front ++ [last]).map Stretch.other ++ stretches false rest := by
  have plain : ∀ {char : Char}, char.isUpper ∨ char = ' ' → char ≠ '\x27' ∧ char ≠ '-' := by
    intro char letter
    constructor <;> rintro rfl <;> revert letter <;> decide
  induction front generalizing atStart with
  | nil =>
    have first := plain (.inl capital)
    rw [List.nil_append, stretches_char first.1 first.2, startsWord_of_isUpper capital]
    rfl
  | cons char front ih =>
    have first := plain (letters char (by simp))
    rw [List.cons_append, stretches_char first.1 first.2,
      ih fun char among => letters char (by simp [among])]
    rfl

theorem spacing_gap {gap : List Char} (blank : ∀ char ∈ gap, isBlank char) (rest : List Char) :
    spacing (gap ++ rest) = spacing rest := by
  induction gap with
  | nil => rfl
  | cons char gap ih =>
    rw [List.cons_append, spacing, if_pos (blank char (by simp))]
    exact ih fun char among => blank char (by simp [among])

/-- Two texts have the same characters, blanks apart, and those that a blank separates in the
first text are separated in the second. -/
def KeepsApart (before after : List Char) : Prop :=
  List.Forall₂ (fun first second => first.1 = second.1 ∧ (first.2 → second.2))
    (spacing before) (spacing after)

theorem KeepsApart.refl (chars : List Char) : KeepsApart chars chars :=
  List.forall₂_same.mpr fun _ _ => ⟨rfl, id⟩

theorem KeepsApart.gap {before after : List Char} (apart : KeepsApart before after)
    {gap : List Char} (blank : ∀ char ∈ gap, isBlank char) :
    KeepsApart before (gap ++ after) := by
  rwa [KeepsApart, spacing_gap blank]

/-- The same characters before two texts keep them apart, if the last one does. -/
theorem KeepsApart.append {before after : List Char} (apart : KeepsApart before after)
    (front : List Char) {last : Char}
    (follows : isBlank last = false → before.head?.any isBlank → after.head?.any isBlank) :
    KeepsApart (front ++ last :: before) (front ++ last :: after) := by
  unfold KeepsApart at apart ⊢
  induction front with
  | nil =>
    by_cases blank : isBlank last
    · simpa [spacing, blank] using apart
    · rw [List.nil_append, List.nil_append, spacing, spacing, if_neg blank, if_neg blank]
      exact .cons ⟨rfl, follows (by simpa using blank)⟩ apart
  | cons char front ih =>
    have same : (front ++ last :: before).head? = (front ++ last :: after).head? := by
      cases front <;> rfl
    rw [List.cons_append, List.cons_append, spacing, spacing, same]
    split
    · exact ih
    · exact .cons ⟨rfl, id⟩ ih

end Text

namespace Layout

variable {indent : Nat} {place : Place} {chars out : List Char}

theorem isBlank_of_mem_blanks {count : Nat} : ∀ char ∈ blanks count, isBlank char := by
  intro char among
  rw [List.eq_of_mem_replicate among]
  rfl

/-- What stands before a word on a new line. -/
theorem isBlank_of_mem_margin {count : Nat} :
    ∀ char ∈ place.lineEnd ++ blanks count, isBlank char := by
  intro char among
  rcases List.mem_append.mp among with ending | among
  · unfold Place.lineEnd at ending
    split at ending
    · simp at ending
    · rw [List.mem_singleton.mp ending]
      rfl
  · exact isBlank_of_mem_blanks char among

/-- What is written first, unless a line has been started, is what is read first or a line
end. -/
theorem Laid.head?_eq (laid : Laid indent place chars out) (stale : place.fresh = false) :
    out.head? = (blanks place.spaces ++ chars).head? ∨ out.head? = some '\n' := by
  induction laid with
  | nil => simp
  | unended => exact .inl rfl
  | @space place rest _ after ih =>
    have same : blanks (place.spaces + 1) ++ rest = blanks place.spaces ++ ' ' :: rest := by
      simp [blanks, List.replicate_succ']
    exact same ▸ ih stale
  | copy copies =>
    obtain ⟨front, last, rfl, -⟩ := copies.last
    exact .inl (by cases front <;> simp [List.head?_append])
  | clause => exact .inr (by simp [Place.lineEnd, stale])
  | openSubquery => exact .inl (by simp [List.head?_append])
  | closeSubquery => exact .inr (by simp [Place.lineEnd, stale])

theorem Laid.head?_or (laid : Laid indent place chars out) (spaces : place.spaces = 0)
    (stale : place.fresh = false) : out.head? = chars.head? ∨ out.head? = some '\n' := by
  simpa [spaces, blanks] using laid.head?_eq stale

/-- No dash is written first where none was read. -/
theorem Laid.head?_dash (laid : Laid indent place chars out) (spaces : place.spaces = 0)
    (stale : place.fresh = false) (dash : out.head? = some '-') : chars.head? = some '-' := by
  rcases laid.head?_or spaces stale with same | ended
  · rw [← dash, same]
  · rw [dash] at ended
    cases ended

/-- A blank is written first where one was read. -/
theorem Laid.head?_blank (laid : Laid indent place chars out) (spaces : place.spaces = 0)
    (stale : place.fresh = false) (blank : chars.head?.any isBlank) : out.head?.any isBlank := by
  rcases laid.head?_or spaces stale with same | ended
  · rwa [same]
  · rw [ended]
    rfl

/-- The open parentheses after a stretch, each with whether a subquery follows it. -/
def opens (parentheses : List Bool) (rest : List Char) : Stretch → List Bool
  | .other '(' => startsSubquery rest :: parentheses
  | .other ')' => parentheses.tail
  | _ => parentheses

/-- What is copied is one stretch that opens no subquery, whatever stands after it, as long as
no dash comes after a dash. -/
theorem Copies.exists_stretch {parentheses : List Bool} {atStart : Bool} {chunk rest : List Char}
    {next : Place} (copies : Copies parentheses atStart chunk rest next) :
    ∃ stretch : Stretch, stretch.startsWord = next.atStart ∧
      opens parentheses rest stretch = next.parentheses ∧
      (stretch = .other '(' → startsSubquery rest = false ∧ next.fresh = false) ∧
      ∀ after : List Char,
        (next.fresh = false → after.head? = some '-' → rest.head? = some '-') →
        stretches atStart (chunk ++ after) = stretch :: stretches next.atStart after := by
  cases copies with
  | quoted unquoted =>
    exact ⟨.quoted _, rfl, rfl, nofun, fun after _ => by
      simpa using stretches_quoted unquoted _ after⟩
  | comment starts unbroken =>
    exact ⟨.comment _, rfl, rfl, nofun, fun after _ => by
      simpa [starts] using stretches_comment unbroken after⟩
  | opening plain =>
    exact ⟨.other '(', rfl, by simp [opens, plain], fun _ => ⟨plain, rfl⟩,
      fun after _ => stretches_char (by decide) (by decide) _ _⟩
  | closing =>
    exact ⟨.other ')', rfl, rfl, fun opening => absurd opening (by decide),
      fun after _ => stretches_char (by decide) (by decide) _ _⟩
  | @char char rest plain free =>
    simp only [List.mem_cons, not_or] at plain
    have starts : startsWord char = isBlank char := by simp [startsWord, plain.2.1]
    refine ⟨.other char, starts, by simp [opens, plain], by simp [plain],
      fun after dash => ?_⟩
    rw [List.singleton_append, stretches_other plain.1, starts]
    intro word
    by_contra comment
    obtain ⟨rfl, second⟩ := startsComment_cons_iff.mp (by simpa [startsComment] using comment)
    have read := startsComment_cons_iff.mpr ⟨rfl, dash rfl second⟩
    rw [(free word).1] at read
    cases read

/-- A word can start after the spaces that are held back. -/
theorem Place.atStart_eq (held : place.spaces ≠ 0 → place.atStart = true) {atStart : Bool}
    (starts : place.spaces = 0 → atStart = place.atStart) :
    place.atStart = if blanks place.spaces = [] then atStart else true := by
  by_cases none : place.spaces = 0
  · simp [none, blanks, starts none]
  · simp [none, blanks, held none]

/-- The spaces that are held back make no difference to what is found after them. -/
theorem solids_blanks (held : place.spaces ≠ 0 → place.atStart = true) {atStart : Bool}
    (starts : place.spaces = 0 → atStart = place.atStart) (rest : List Char) :
    solids (stretches atStart (blanks place.spaces ++ rest)) =
      solids (stretches place.atStart rest) :=
  solids_gap isBlank_of_mem_blanks (Place.atStart_eq held starts) rest

/-- Outside of quotes and comments, laying out a text changes only blanks. -/
theorem solids_of_laid (laid : Laid indent place chars out)
    (held : place.spaces ≠ 0 → place.atStart = true) {atStart : Bool}
    (starts : place.spaces = 0 → atStart = place.atStart) :
    solids (stretches atStart out) = solids (stretches place.atStart chars) := by
  induction laid generalizing atStart with
  | nil => simpa using solids_blanks held starts []
  | unended => exact solids_blanks held starts _
  | @space place rest out after ih =>
    rw [stretches_blank (by decide), ih (by simp) (by simp)]
    rfl
  | @copy place next chunk rest out copies after ih =>
    obtain ⟨stretch, -, -, -, found⟩ := copies.exists_stretch
    obtain ⟨-, -, -, -, spaces, -⟩ := copies.last
    have copied := found out (after.head?_dash spaces)
    rw [solids_blanks held starts, found rest fun _ => id, copied, solids_cons, solids_cons,
      ih (by simp [spaces]) fun _ => rfl]
  | @clause place word rest out _ keyword ends after ih =>
    obtain ⟨-, ⟨front, last, rfl, capital⟩, letters⟩ := spelling_of_keyword keyword
    have within : ∀ char ∈ front, char.isUpper ∨ char = ' ' :=
      fun char among => letters char (by simp [among])
    have word := stretches_letters within capital
    rw [← List.append_assoc, solids_gap isBlank_of_mem_margin rfl, List.append_assoc,
      List.append_assoc, List.singleton_append, List.singleton_append, word, word,
      solids_append, solids_append, ih (by simp) fun _ => rfl]
  | @openSubquery place rest out subquery after ih =>
    have opened : ∀ atStart rest, stretches atStart ('(' :: rest) =
        .other '(' :: stretches true rest :=
      stretches_char (by decide) (by decide)
    rw [solids_blanks held starts, opened, opened, stretches_blank (by decide), solids_cons,
      solids_cons, solids_cons, ih (by simp) fun _ => rfl]
    rfl
  | @closeSubquery place parentheses rest out subquery after ih =>
    have closed : ∀ atStart rest, stretches atStart (')' :: rest) =
        .other ')' :: stretches false rest :=
      stretches_char (by decide) (by decide)
    rw [← List.append_assoc, solids_gap isBlank_of_mem_margin rfl, closed, closed, solids_cons,
      solids_cons, ih (by simp) fun _ => rfl]

theorem keepsApart_of_laid (laid : Laid indent place chars out) : KeepsApart chars out := by
  induction laid with
  | nil => simpa using (KeepsApart.refl []).gap isBlank_of_mem_blanks
  | unended => exact (KeepsApart.refl _).gap isBlank_of_mem_blanks
  | space after ih => exact ih
  | copy copies after ih =>
    obtain ⟨front, last, rfl, -, spaces, fresh⟩ := copies.last
    refine KeepsApart.gap ?_ isBlank_of_mem_blanks
    rw [List.append_assoc, List.append_assoc]
    refine ih.append front fun solid => after.head?_blank spaces ?_
    rw [fresh, beq_eq_false_iff_ne]
    rintro rfl
    cases solid
  | @clause place word rest out _ keyword ends after ih =>
    obtain ⟨-, ⟨front, last, rfl, capital⟩, -⟩ := spelling_of_keyword keyword
    rw [← List.append_assoc]
    refine KeepsApart.gap ?_ isBlank_of_mem_margin
    rw [List.append_assoc, List.append_assoc]
    exact ih.append front fun _ => after.head?_blank rfl rfl
  | openSubquery subquery after ih =>
    refine KeepsApart.gap ?_ isBlank_of_mem_blanks
    refine KeepsApart.append ?_ [] fun _ _ => rfl
    exact @KeepsApart.gap _ _ ih ['\n'] (by simp [isBlank])
  | closeSubquery subquery after ih =>
    rw [← List.append_assoc]
    refine KeepsApart.gap ?_ isBlank_of_mem_margin
    exact ih.append [] fun _ => after.head?_blank rfl rfl

/-- Laying out a text changes only blanks outside of quotes and comments, and takes none away
where characters would not be apart any more. -/
theorem stretches_format (indent : Nat) (sql : String) :
    (stretches true (format indent sql).toList).filter (fun stretch => !stretch.isBlank) =
        (stretches true sql.toList).filter (fun stretch => !stretch.isBlank) ∧
      KeepsApart sql.toList (format indent sql).toList := by
  have laid := laid_format indent sql
  have same : solids (stretches true (format indent sql).toList) =
      solids (stretches true sql.toList) := solids_of_laid laid (by simp) fun _ => rfl
  simp only [solids] at same
  exact ⟨same, keepsApart_of_laid laid⟩

end Layout

end BoundSql
