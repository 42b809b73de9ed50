import BoundSql.Proofs.Layout.Blanks
/-!
# Laying out a text that is laid out

A text that is laid out stays as it is when it is laid out again, unless a clause keyword
stood right before the end of a subquery.  Such a keyword is no clause, since its word does not
end there; but the end of the subquery is put on a line of its own, and then the word ends.
After a second time each text stays as it is.
-/

namespace BoundSql

open Text

namespace Layout

variable {indent : Nat} {place : Place} {chars out : List Char}

/-- Whether a clause keyword at the start of a text stands right before the end of a
subquery. -/
def crowdsAt (parentheses : List Bool) (atStart : Bool) (chars : List Char) : Bool :=
  atStart && parentheses.head? == some true &&
    keywords.any fun word => (word ++ [')']).isPrefixOf chars

/-- Whether a clause keyword stands right before the end of a subquery anywhere. -/
def crowds (parentheses : List Bool) (atStart : Bool) : List Stretch → Bool
  | [] => false
  | stretch :: rest =>
    crowdsAt parentheses atStart (joined (stretch :: rest)) ||
      crowds (opens parentheses (joined rest) stretch) stretch.startsWord rest

example : crowds [] true (stretches true "(SELECT a FROM)".toList) = true := by decide

example : crowds [] true (stretches true "((a FROM) 'FROM)' --FROM)\n)".toList) = false := by
  decide

/-! ### Words in what is written -/

/-- A word at the start of a text: it ends before a given character, or it goes on over it. -/
theorem exists_of_append_cons_eq {front tail word rest : List Char} {first : Char}
    (ends : endsWord rest) (same : front ++ first :: tail = word ++ rest) (others : List Char) :
    (∃ after, front ++ first :: others = word ++ after ∧ endsWord after) ∨
      ∃ more, word = front ++ first :: more ∧ tail = more ++ rest := by
  rcases List.append_eq_append_iff.mp same with ⟨more, rfl, follows⟩ | ⟨more, rfl, rfl⟩
  · rcases List.cons_eq_append_iff.mp follows with ⟨rfl, rfl⟩ | ⟨more, rfl, rfl⟩
    · exact .inl ⟨first :: others, by simp, ends⟩
    · exact .inr ⟨more, rfl, rfl⟩
  · refine .inl ⟨more ++ first :: others, by simp, ?_⟩
    cases more <;> exact ends

/-- What is copied is a capital, or it begins with what stands in no keyword. -/
theorem Copies.capital_or {parentheses : List Bool} {atStart : Bool} {chunk rest : List Char}
    {next : Place} (copies : Copies parentheses atStart chunk rest next) :
    (∃ char, chunk = [char] ∧ char.isUpper ∧
        next = { fresh := false, parentheses, atStart := false }) ∨
      ∃ first tail, chunk = first :: tail ∧ ¬(first.isUpper ∨ first = ' ') := by
  cases copies with
  | quoted | comment | opening | closing => exact .inr ⟨_, _, rfl, by decide⟩
  | @char char _ plain =>
    simp only [List.mem_cons, not_or] at plain
    by_cases capital : char.isUpper
    · have line : (char == '\n') = false := by
        rw [beq_eq_false_iff_ne]
        rintro rfl
        cases capital
      exact .inl ⟨char, rfl, capital, by rw [line, isBlank_of_isUpper capital]⟩
    · exact .inr ⟨char, [], rfl, by simp [capital, plain]⟩

theorem endsWord_blanks {count : Nat} (nonzero : count ≠ 0) (rest : List Char) :
    endsWord (blanks count ++ rest) := by
  obtain ⟨count, rfl⟩ := Nat.exists_eq_succ_of_ne_zero nonzero
  rfl

/-- No word starts where a line ends. -/
theorem eq_nil_of_lineEnd (stale : place.fresh = false) {word rest others : List Char}
    (letters : ∀ char ∈ word, char.isUpper ∨ char = ' ')
    (same : place.lineEnd ++ others = word ++ rest) : word = [] := by
  cases word with
  | nil => rfl
  | cons char word =>
    simp only [Place.lineEnd, stale, Bool.false_eq_true, if_false, List.cons_append,
      List.cons.injEq] at same
    have letter := letters char (by simp)
    rw [← same.1] at letter
    rcases letter with capital | space
    · cases capital
    · cases space

/-- A word at the start of what is written stood there when it was read.  It ended there too,
unless it stood right before the end of a subquery. -/
theorem Laid.exists_word (laid : Laid indent place chars out) (stale : place.fresh = false)
    {word rest : List Char} (letters : ∀ char ∈ word, char.isUpper ∨ char = ' ')
    (continues : word = [] → place.atStart = true → place.spaces ≠ 0)
    (written : out = word ++ rest) (ends : endsWord rest) :
    ∃ after, blanks place.spaces ++ chars = word ++ after ∧
      (endsWord after ∨ place.parentheses.head? = some true ∧ after.head? = some ')') := by
  -- The induction eats up the word, so it has to hold for no word at all: then a clause must
  -- not start right here, as it would be put on a new line.
  induction laid generalizing word with
  | nil => exact ⟨rest, by simpa using written, .inl ends⟩
  | unended => exact ⟨rest, written, .inl ends⟩
  | @space place chars out after ih =>
    obtain ⟨later, same, follows⟩ := ih stale letters (by simp) written
    refine ⟨later, ?_, follows⟩
    rw [← same]
    simp [blanks, List.replicate_succ']
  | @copy place next chunk chars out copies after ih =>
    rcases copies.capital_or with ⟨char, rfl, -, rfl⟩ | ⟨first, tail, rfl, other⟩
    · rcases exists_of_append_cons_eq ends written chars with ⟨later, same, follows⟩ |
        ⟨more, rfl, rfl⟩
      · exact ⟨later, same, .inl follows⟩
      · obtain ⟨later, same, follows⟩ :=
          ih rfl (fun char among => letters char (by simp [among])) (by simp) rfl
        exact ⟨later, by simpa [blanks] using same, follows⟩
    · rcases exists_of_append_cons_eq ends written (tail ++ chars) with ⟨later, same, follows⟩ |
        ⟨more, rfl, -⟩
      · exact ⟨later, same, .inl follows⟩
      · exact absurd (letters first (by simp)) other
  | clause starts =>
    obtain rfl := eq_nil_of_lineEnd stale letters written
    exact ⟨_, rfl, .inl (endsWord_blanks (continues rfl starts) _)⟩
  | openSubquery =>
    rcases exists_of_append_cons_eq ends written _ with ⟨later, same, follows⟩ | ⟨more, rfl, -⟩
    · exact ⟨later, same, .inl follows⟩
    · exact absurd (letters '(' (by simp)) (by decide)
  | @closeSubquery place parentheses chars out subquery after ih =>
    obtain rfl := eq_nil_of_lineEnd stale letters written
    refine ⟨_, rfl, ?_⟩
    by_cases none : place.spaces = 0
    · exact .inr ⟨by simp [subquery], by simp [none, blanks]⟩
    · exact .inl (endsWord_blanks none _)

theorem endsWord_eq (chars : List Char) : endsWord chars = chars.head?.all startsWord := by
  cases chars <;> rfl

/-- A word that ended still ends. -/
theorem Laid.endsWord (laid : Laid indent place chars out) (spaces : place.spaces = 0)
    (stale : place.fresh = false) (ends : endsWord chars) : Layout.endsWord out := by
  rw [endsWord_eq] at ends ⊢
  rcases laid.head?_or spaces stale with same | ended
  · rwa [same]
  · rw [ended]
    rfl

theorem Laid.startsSubquery_eq_false (laid : Laid indent place chars out)
    (spaces : place.spaces = 0) (stale : place.fresh = false)
    (within : place.parentheses.head? ≠ some true) (plain : startsSubquery chars = false) :
    startsSubquery out = false := by
  by_contra subquery
  obtain ⟨rest, written, ends⟩ := startsSubquery_iff.mp (by simpa using subquery)
  obtain ⟨after, same, follows⟩ :=
    laid.exists_word stale (letters_of_all (by decide)) (fun empty => by cases empty) written ends
  replace same : chars = "SELECT".toList ++ after := by simpa [spaces, blanks] using same
  rcases follows with ends | ⟨top, -⟩
  · rw [startsSubquery_iff.mpr ⟨after, same, ends⟩] at plain
    cases plain
  · exact within top

theorem Laid.clause?_eq_none {char : Char} (laid : Laid indent place chars out)
    (spaces : place.spaces = 0) (stale : place.fresh = false)
    (free : crowdsAt place.parentheses true (char :: chars) = false)
    (plain : clause? (char :: chars) = none) : clause? (char :: out) = none := by
  rw [clause?_eq_none_iff]
  intro word among rest written
  by_contra ends
  obtain ⟨⟨first, tail, rfl, -, more⟩, -, letters⟩ := spelling_of_keyword among
  obtain ⟨rfl, later⟩ := List.cons.inj written
  obtain ⟨after, same, follows⟩ := laid.exists_word stale
    (fun char within => letters char (by simp [within])) (fun empty => absurd empty more)
    later (by simpa using ends)
  replace same : chars = tail ++ after := by simpa [spaces, blanks] using same
  subst same
  rcases follows with ends | ⟨top, last⟩
  · rw [clause?_eq_none_iff.mp plain _ among after rfl] at ends
    cases ends
  · obtain ⟨rest, rfl⟩ := List.head?_eq_some_iff.mp last
    simp only [crowdsAt, top, beq_self_eq_true, Bool.true_and, List.any_eq_false] at free
    exact free _ among (by simp)

/-! ### Reading what is written -/

/-- The same place in what is written, where no parenthesis is before a subquery any more. -/
def Place.again (place : Place) (atStart : Bool) : Place :=
  { fresh := place.fresh, parentheses := place.parentheses.map fun _ => false, atStart }

theorem Copies.atStart_of_fresh {parentheses : List Bool} {atStart : Bool}
    {chunk rest : List Char} {next : Place}
    (copies : Copies parentheses atStart chunk rest next) (fresh : next.fresh) :
    next.atStart := by
  cases copies with
  | quoted | opening | closing => cases fresh
  | comment => rfl
  | char =>
    rw [beq_iff_eq.mp fresh]
    rfl

/-- What is copied is copied again. -/
theorem Copies.again {parentheses : List Bool} {atStart : Bool} {chunk rest : List Char}
    {next : Place} (copies : Copies parentheses atStart chunk rest next)
    (after : Laid indent next rest out)
    (free : crowdsAt parentheses atStart (chunk ++ rest) = false) :
    Copies (parentheses.map fun _ => false) atStart chunk out (next.again next.atStart) := by
  cases copies with
  | quoted unquoted => exact .quoted unquoted
  | comment starts unbroken => exact .comment starts unbroken
  | opening plain => exact .opening (after.startsSubquery_eq_false rfl rfl (by simp) plain)
  | closing plain =>
    have closed := @Copies.closing (parentheses.map fun _ => false) atStart out
      (by cases parentheses <;> simp)
    simpa only [Place.again, List.map_tail] using closed
  | @char char rest plain begins =>
    refine .char plain fun starts => ?_
    subst starts
    by_cases newline : char = '\n'
    · exact newline ▸ beginsNothing_of_ne (by decide) rfl out
    · have stale : (char == '\n') = false := by simpa using newline
      refine ⟨?_, after.clause?_eq_none rfl stale free (begins rfl).2⟩
      by_contra comment
      obtain ⟨dash, second⟩ := startsComment_cons_iff.mp (by simpa using comment)
      have read := startsComment_cons_iff.mpr ⟨dash, after.head?_dash rfl stale second⟩
      rw [(begins rfl).1] at read
      cases read

theorem Laid.spaced {count : Nat}
    (laid : Laid indent
      { place with
        spaces := place.spaces + count
        atStart := if count = 0 then place.atStart else true } chars out) :
    Laid indent place (blanks count ++ chars) out := by
  induction count generalizing place with
  | zero => exact laid
  | succ count ih =>
    refine .space (ih ?_)
    simpa [Nat.add_assoc, Nat.add_comm 1] using laid

/-- The spaces that were held back are held back again. -/
theorem Laid.held (held : place.spaces ≠ 0 → place.atStart = true) {atStart : Bool}
    (starts : place.spaces = 0 → atStart = place.atStart)
    (laid : Laid indent { place.again place.atStart with spaces := place.spaces } chars out) :
    Laid indent (place.again atStart) (blanks place.spaces ++ chars) out := by
  apply Laid.spaced
  by_cases none : place.spaces = 0
  · simpa [none, Place.again, starts none] using laid
  · simpa [none, Place.again, held none] using laid

/-- What stood at the margin of a new line stands there again. -/
theorem Laid.margin (spaces : place.spaces = 0) (fresh : place.fresh = true → place.atStart = true)
    {count : Nat} (laid : Laid indent { spaces := count, parentheses := place.parentheses } chars
      (blanks count ++ out)) :
    Laid indent place (place.lineEnd ++ (blanks count ++ chars))
      (place.lineEnd ++ (blanks count ++ out)) := by
  have line : Laid indent { parentheses := place.parentheses } (blanks count ++ chars)
      (blanks count ++ out) := Laid.spaced (by simpa using laid)
  obtain ⟨_, starts, parentheses, atStart⟩ := place
  subst spaces
  cases starts with
  | true =>
    obtain rfl : atStart = true := fresh rfl
    exact line
  | false =>
    exact .copy (.char (by decide) fun _ => beginsNothing_of_ne (by decide) rfl _) line

/-! ### Keywords before the end of a subquery -/

theorem mem_of_crowdsAt {parentheses : List Bool} {atStart : Bool} {chars : List Char}
    (crowded : crowdsAt parentheses atStart chars) : true ∈ parentheses := by
  simp only [crowdsAt, Bool.and_eq_true, beq_iff_eq] at crowded
  exact List.mem_of_head? crowded.1.2

theorem crowdsAt_of_small {char : Char} (small : char.isUpper = false) (parentheses : List Bool)
    (atStart : Bool) (rest : List Char) : crowdsAt parentheses atStart (char :: rest) = false := by
  have apart : ∀ word ∈ keywords, ¬(word ++ [')']).isPrefixOf (char :: rest) = true := by
    intro word among
    obtain ⟨⟨first, tail, rfl, capital, -⟩, -⟩ := spelling_of_keyword among
    have other : first ≠ char := by
      rintro rfl
      rw [small] at capital
      cases capital
    simp [other]
  rw [crowdsAt, List.any_eq_false.mpr apart, Bool.and_false]

theorem crowds_char {char : Char} (small : char.isUpper = false) (quote : char ≠ '\x27')
    (dash : char ≠ '-') (parentheses : List Bool) (atStart : Bool) (rest : List Char) :
    crowds parentheses atStart (stretches atStart (char :: rest)) =
      crowds (opens parentheses rest (.other char)) (startsWord char)
        (stretches (startsWord char) rest) := by
  rw [stretches_char quote dash, crowds, joined_cons, joined_stretches]
  simp only [Stretch.chars, List.singleton_append, crowdsAt_of_small small, Bool.false_or]
  rfl

theorem crowds_gap {gap : List Char} (blank : ∀ char ∈ gap, isBlank char)
    {atStart after : Bool} (starts : after = if gap = [] then atStart else true)
    (parentheses : List Bool) (rest : List Char) :
    crowds parentheses atStart (stretches atStart (gap ++ rest)) =
      crowds parentheses after (stretches after rest) := by
  induction gap generalizing atStart with
  | nil => simp [starts]
  | cons char gap ih =>
    have space := blank char (by simp)
    have other : ∀ {solid : Char}, isBlank solid = false → char ≠ solid := by
      rintro solid isSolid rfl
      rw [isSolid] at space
      cases space
    have small : char.isUpper = false := by
      by_contra capital
      rw [isBlank_of_isUpper (by simpa using capital)] at space
      cases space
    have plain : char ≠ '(' ∧ char ≠ ')' := ⟨other rfl, other rfl⟩
    have same : opens parentheses (gap ++ rest) (.other char) = parentheses := by
      simp [opens, plain]
    rw [List.cons_append, crowds_char small (other rfl) (other rfl), same]
    exact ih (fun char among => blank char (by simp [among])) (by simp [starts, startsWord, space])

theorem crowds_blanks (held : place.spaces ≠ 0 → place.atStart = true) {atStart : Bool}
    (starts : place.spaces = 0 → atStart = place.atStart) (parentheses : List Bool)
    (rest : List Char) :
    crowds parentheses atStart (stretches atStart (blanks place.spaces ++ rest)) =
      crowds parentheses place.atStart (stretches place.atStart rest) :=
  crowds_gap isBlank_of_mem_blanks (Place.atStart_eq held starts) parentheses rest

/-- A keyword is crowded itself, or all that counts is what stands after it. -/
theorem crowds_letters {front : List Char} {last : Char} (capital : last.isUpper)
    (letters : ∀ char ∈ front ++ [last], char.isUpper ∨ char = ' ') (parentheses : List Bool)
    (atStart : Bool) (found : List Stretch) :
    ∃ here : Bool, (here → true ∈ parentheses) ∧
      crowds parentheses atStart ((front ++ [last]).map .other ++ found) =
        (here || crowds parentheses false found) := by
  have same : ∀ {char : Char} (rest : List Char), char.isUpper ∨ char = ' ' →
      opens parentheses rest (.other char) = parentheses := by
    intro char rest letter
    have plain : char ≠ '(' ∧ char ≠ ')' := by
      constructor <;> rintro rfl <;> revert letter <;> decide
    simp [opens, plain]
  induction front generalizing atStart with
  | nil =>
    refine ⟨crowdsAt parentheses atStart (joined (.other last :: found)), mem_of_crowdsAt, ?_⟩
    rw [List.nil_append, List.map_singleton, List.singleton_append, crowds,
      same _ (.inl capital), Stretch.startsWord, startsWord_of_isUpper capital]
  | cons char front ih =>
    obtain ⟨here, within, others⟩ :=
      ih (fun char among => letters char (by simp [among])) (startsWord char)
    refine ⟨crowdsAt parentheses atStart
      (joined ((char :: (front ++ [last])).map .other ++ found)) || here, fun crowded => ?_, ?_⟩
    · exact (Bool.or_eq_true _ _ ▸ crowded).elim mem_of_crowdsAt within
    · rw [List.cons_append, List.map_cons, List.cons_append, crowds,
        same _ (letters char (by simp)), Stretch.startsWord, others, Bool.or_assoc]

theorem crowds_keyword {word : List Char} (keyword : word ∈ keywords) (parentheses : List Bool)
    (atStart : Bool) (rest : List Char) :
    ∃ here : Bool, (here → true ∈ parentheses) ∧
      crowds parentheses atStart (stretches atStart (word ++ rest)) =
        (here || crowds parentheses false (stretches false rest)) := by
  obtain ⟨-, ⟨front, last, rfl, capital⟩, letters⟩ := spelling_of_keyword keyword
  rw [List.append_assoc, List.singleton_append,
    stretches_letters (fun char among => letters char (by simp [among])) capital]
  exact crowds_letters capital letters parentheses atStart _

theorem Copies.crowds {parentheses : List Bool} {atStart : Bool} {chunk rest : List Char}
    {next : Place} (copies : Copies parentheses atStart chunk rest next) :
    Layout.crowds parentheses atStart (stretches atStart (chunk ++ rest)) =
      (crowdsAt parentheses atStart (chunk ++ rest) ||
        Layout.crowds next.parentheses next.atStart (stretches next.atStart rest)) := by
  obtain ⟨stretch, starts, opened, -, found⟩ := copies.exists_stretch
  replace found := found rest fun _ => id
  have all : joined (stretch :: stretches next.atStart rest) = chunk ++ rest := by
    rw [← found, joined_stretches]
  rw [found, Layout.crowds, all, joined_stretches, opened, starts]

/-- Where no keyword is crowded, what is written is laid out as itself. -/
theorem Laid.again (laid : Laid indent place chars out)
    (free : crowds place.parentheses place.atStart (stretches place.atStart chars) = false)
    (held : place.spaces ≠ 0 → place.atStart = true) {atStart : Bool}
    (starts : place.spaces = 0 → atStart = place.atStart)
    (fresh : place.fresh = true → atStart = true) :
    Laid indent (place.again atStart) out out := by
  induction laid generalizing atStart with
  | nil => simpa using Laid.held held starts .nil
  | unended unended => exact Laid.held held starts (.unended unended)
  | @space place rest out after ih =>
    rw [← List.singleton_append, crowds_gap (by simp [isBlank]) rfl] at free
    exact ih free (fun _ => rfl) (by simp) fresh
  | @copy place next chunk rest out copies after ih =>
    rw [copies.crowds, Bool.or_eq_false_iff] at free
    obtain ⟨-, -, -, -, spaces, -⟩ := copies.last
    have copied := ih free.2 (by simp [spaces]) (fun _ => rfl) copies.atStart_of_fresh
    exact Laid.held held starts (.copy (copies.again after free.1) copied)
  | @clause place word rest out _ keyword ends after ih =>
    obtain ⟨here, -, same⟩ := crowds_keyword keyword place.parentheses place.atStart rest
    rw [same, Bool.or_eq_false_iff] at free
    have copied := ih free.2 (by simp) (fun _ => rfl) (by simp)
    have written := @Laid.clause indent
      { spaces := indent * place.depth, parentheses := (place.again atStart).parentheses } _ _ _
      rfl keyword (after.endsWord rfl rfl ends) copied
    apply @Laid.margin _ (place.again atStart) _ _ rfl fresh
    simpa [Place.lineEnd, Place.depth, Place.again] using written
  | @openSubquery place rest out subquery after ih =>
    rw [crowds_char rfl (by decide) (by decide), opens, subquery] at free
    have copied := ih free (fun _ => rfl) (fun _ => rfl) (fun _ => rfl)
    -- The parenthesis is copied this time: a line break stands between it and the subquery.
    have line : Laid indent
        { fresh := false, parentheses := false :: place.parentheses.map fun _ => false }
        ('\n' :: out) ('\n' :: out) :=
      .copy (.char (by decide) fun _ => beginsNothing_of_ne (by decide) rfl _) copied
    exact Laid.held held starts (.copy (.opening rfl) line)
  | @closeSubquery place parentheses rest out subquery after ih =>
    rw [crowds_char rfl (by decide) (by decide), opens, subquery] at free
    have copied := ih free (by simp) (fun _ => rfl) (by simp)
    apply @Laid.margin _ (place.again atStart) _ _ rfl fresh
    refine .copy (.closing ?_) ?_
    · simp [Place.again, subquery]
    · simpa [Place.again, subquery] using copied

theorem Unended.crowds_eq_false {atStart : Bool} (unended : Unended atStart chars)
    (parentheses : List Bool) : crowds parentheses atStart (stretches atStart chars) = false := by
  cases unended with
  | quoted unquoted =>
    rw [stretches_unclosed unquoted, crowds, joined_cons, Stretch.chars, List.cons_append,
      crowdsAt_of_small rfl]
    rfl
  | comment starts unbroken =>
    subst starts
    rw [stretches_lastComment unbroken, crowds, joined_cons, Stretch.chars, List.cons_append,
      crowdsAt_of_small rfl]
    rfl

/-- In what is written no subquery is found, so no keyword is crowded. -/
theorem Laid.crowds_eq_false (laid : Laid indent place chars out)
    (held : place.spaces ≠ 0 → place.atStart = true) {atStart : Bool}
    (starts : place.spaces = 0 → atStart = place.atStart) {parentheses : List Bool}
    (plain : true ∉ parentheses) : crowds parentheses atStart (stretches atStart out) = false := by
  induction laid generalizing atStart parentheses with
  | nil =>
    rw [← List.append_nil (blanks _), crowds_blanks held starts]
    rfl
  | unended unended => rw [crowds_blanks held starts, unended.crowds_eq_false]
  | space after ih => exact ih (fun _ => rfl) (by simp) plain
  | @copy place next chunk rest out copies after ih =>
    obtain ⟨-, -, -, -, spaces, -⟩ := copies.last
    obtain ⟨stretch, follows, opened, opening, found⟩ := copies.exists_stretch
    have keeps : true ∉ opens parentheses out stretch := by
      unfold opens
      split
      · obtain ⟨none, stale⟩ := opening rfl
        have noneAfter := after.startsSubquery_eq_false spaces stale
          (by simp [← opened, opens, none]) none
        simpa [noneAfter] using plain
      · exact fun among => plain (List.mem_of_mem_tail among)
      · exact plain
    rw [crowds_blanks held starts, found out (after.head?_dash spaces), crowds, follows, joined_stretches,
      ih (by simp [spaces]) (fun _ => rfl) keeps, Bool.or_false]
    exact Bool.eq_false_iff.mpr (mt mem_of_crowdsAt plain)
  | @clause place word rest out _ keyword ends after ih =>
    obtain ⟨here, within, same⟩ := crowds_keyword keyword parentheses
      (if place.lineEnd ++ blanks (indent * place.depth) = [] then atStart else true) out
    rw [← List.append_assoc, crowds_gap isBlank_of_mem_margin rfl, same,
      ih (by simp) (fun _ => rfl) plain, Bool.or_false]
    exact Bool.eq_false_iff.mpr (mt within plain)
  | @openSubquery place rest out subquery after ih =>
    rw [crowds_blanks held starts, crowds_char rfl (by decide) (by decide), opens,
      crowds_char rfl (by decide) (by decide)]
    have noneAfter : startsSubquery ('\n' :: out) = false := rfl
    exact ih (fun _ => rfl) (fun _ => rfl) (by simpa [opens, noneAfter] using plain)
  | @closeSubquery place _ rest out subquery after ih =>
    rw [← List.append_assoc, crowds_gap isBlank_of_mem_margin rfl,
      crowds_char rfl (by decide) (by decide), opens]
    exact ih (by simp) (fun _ => rfl) fun among => plain (List.mem_of_mem_tail among)

/-- A text that is laid out stays as it is, if no clause keyword was crowded; each text stays
as it is once it has been laid out twice. -/
theorem format_format (indent : Nat) (sql : String) :
    (crowds [] true (stretches true sql.toList) = false →
        format indent (format indent sql) = format indent sql) ∧
      format indent (format indent (format indent sql)) = format indent (format indent sql) := by
  have again : ∀ {sql : String}, crowds [] true (stretches true sql.toList) = false →
      format indent (format indent sql) = format indent sql := by
    intro sql free
    have laid := (laid_format indent sql).again free (by simp) (fun _ => rfl) (fun _ => rfl)
    rw [format_eq laid, String.ofList_toList]
  exact ⟨again, again
    ((laid_format indent sql).crowds_eq_false (by simp) (fun _ => rfl) List.not_mem_nil)⟩

/-- A subquery that holds quotes, a comment and another subquery. -/
theorem format_format_nested :
    crowds [] true (stretches true
        "SELECT a FROM (SELECT 'FROM)' AS b --FROM)\n FROM (SELECT c FROM d)) WHERE (e)".toList) =
      false ∧
    format 2 (format 2
        "SELECT a FROM (SELECT 'FROM)' AS b --FROM)\n FROM (SELECT c FROM d)) WHERE (e)") =
      format 2
        "SELECT a FROM (SELECT 'FROM)' AS b --FROM)\n FROM (SELECT c FROM d)) WHERE (e)" := by
  have free : crowds [] true (stretches true
      "SELECT a FROM (SELECT 'FROM)' AS b --FROM)\n FROM (SELECT c FROM d)) WHERE (e)".toList) =
    false := by decide +kernel
  exact ⟨free, (format_format 2 _).1 free⟩

/-- The keyword before the end of the subquery is put on a line of its own the second time. -/
theorem format_format_ne :
    format 2 (format 2 "(SELECT a FROM)") ≠ format 2 "(SELECT a FROM)" := by
  decide +kernel

end Layout

end BoundSql
