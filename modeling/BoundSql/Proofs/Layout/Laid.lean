import BoundSql.Proofs.Layout.Words
/-!
# How a text is laid out

The scan drops spaces that it has already written where it starts a line.  Here the layout
of a text is told from left to right instead: spaces are held back until it is known
whether a line starts after them, and the text is taken in quoted texts, comments, clause
keywords and single characters.  Each text is laid out in this way, and the scan writes
just that.
-/

namespace BoundSql

namespace Layout

/-! ### Laying out from left to right -/

/-- Where the layout of a text has come. -/
structure Place where
  /-- How many spaces are held back. -/
  spaces : Nat := 0
  /-- Whether a line has just been started, but for the spaces. -/
  fresh : Bool := true
  parentheses : List Bool := []
  /-- Whether a word can start. -/
  atStart : Bool := true

def blanks (count : Nat) : List Char := List.replicate count ' '

/-- What is copied as it stands before the rest of a text, and the place after it. -/
inductive Copies (parentheses : List Bool) (atStart : Bool) :
    (chunk rest : List Char) → Place → Prop
  | quoted {body rest : List Char} (unquoted : '\x27' ∉ body) :
    Copies parentheses atStart ('\x27' :: (body ++ ['\x27'])) rest
      { fresh := false, parentheses, atStart := false }
  | comment {body rest : List Char} (starts : atStart = true) (unbroken : '\n' ∉ body) :
    Copies parentheses atStart ('-' :: '-' :: (body ++ ['\n'])) rest { parentheses }
  | opening {rest : List Char} (plain : startsSubquery rest = false) :
    Copies parentheses atStart ['('] rest
      { fresh := false, parentheses := false :: parentheses }
  | closing {rest : List Char} (plain : parentheses.head? ≠ some true) :
    Copies parentheses atStart [')'] rest
      { fresh := false, parentheses := parentheses.tail, atStart := false }
  | char {char : Char} {rest : List Char} (plain : char ∉ ['\x27', '(', ')', ' '])
    (free : atStart = true → beginsNothing (char :: rest)) :
    Copies parentheses atStart [char] rest
      { fresh := char == '\n', parentheses, atStart := Text.isBlank char }

/-- A quoted text or a comment that does not end. -/
inductive Unended (atStart : Bool) : List Char → Prop
  | quoted {body : List Char} (unquoted : '\x27' ∉ body) : Unended atStart ('\x27' :: body)
  | comment {body : List Char} (starts : atStart = true) (unbroken : '\n' ∉ body) :
    Unended atStart ('-' :: '-' :: body)

namespace Place

def depth (place : Place) : Nat := place.parentheses.length

/-- What ends the line before a new one. -/
def lineEnd (place : Place) : List Char := if place.fresh then [] else ['\n']

end Place

/-- A text from a place on, and what is written for it from there on. -/
inductive Laid (indent : Nat) : Place → List Char → List Char → Prop
  | nil {place : Place} : Laid indent place [] (blanks place.spaces)
  | unended {place : Place} {chars : List Char} (unended : Unended place.atStart chars) :
    Laid indent place chars (blanks place.spaces ++ chars)
  | space {place : Place} {rest out : List Char}
    (after : Laid indent { place with spaces := place.spaces + 1, atStart := true } rest out) :
    Laid indent place (' ' :: rest) out
  | copy {place next : Place} {chunk rest out : List Char}
    (copies : Copies place.parentheses place.atStart chunk rest next)
    (after : Laid indent next rest out) :
    Laid indent place (chunk ++ rest) (blanks place.spaces ++ (chunk ++ out))
  /-- A clause keyword, which starts a line. -/
  | clause {place : Place} {word rest out : List Char} (starts : place.atStart = true)
    (keyword : word ∈ keywords) (ends : endsWord rest)
    (after : Laid indent
      { fresh := false, parentheses := place.parentheses, atStart := false } rest out) :
    Laid indent place (word ++ rest)
      (place.lineEnd ++ (blanks (indent * place.depth) ++ (word ++ out)))
  /-- The parenthesis before a subquery, which starts a line. -/
  | openSubquery {place : Place} {rest out : List Char} (subquery : startsSubquery rest)
    (after : Laid indent
      { spaces := indent * (place.depth + 1), parentheses := true :: place.parentheses } rest
      out) :
    Laid indent place ('(' :: rest) (blanks place.spaces ++ '(' :: '\n' :: out)
  /-- The parenthesis after a subquery, which stands on a line of its own. -/
  | closeSubquery {place : Place} {parentheses : List Bool} {rest out : List Char}
    (subquery : place.parentheses = true :: parentheses)
    (after : Laid indent { fresh := false, parentheses, atStart := false } rest out) :
    Laid indent place (')' :: rest)
      (place.lineEnd ++ (blanks (indent * parentheses.length) ++ ')' :: out))

/-! ### Every text is laid out -/

theorem Laid.exists_quoted {indent : Nat} {place : Place} {rest : List Char}
    (shorter : ∀ next after, after.length < rest.length + 1 → ∃ out, Laid indent next after out) :
    ∃ out, Laid indent place ('\x27' :: rest) out := by
  by_cases closed : '\x27' ∈ rest
  · obtain ⟨body, after, rfl, unquoted⟩ := List.eq_append_cons_of_mem closed
    obtain ⟨out, laid⟩ := shorter _ after (by rw [List.length_append, List.length_cons]; omega)
    exact ⟨_, by simpa using Laid.copy (.quoted unquoted) laid⟩
  · exact ⟨_, .unended (.quoted closed)⟩

theorem Laid.exists_comment {indent : Nat} {place : Place} (starts : place.atStart = true)
    {rest : List Char}
    (shorter : ∀ next after, after.length < rest.length + 2 → ∃ out, Laid indent next after out) :
    ∃ out, Laid indent place ('-' :: '-' :: rest) out := by
  by_cases ended : '\n' ∈ rest
  · obtain ⟨body, after, rfl, unbroken⟩ := List.eq_append_cons_of_mem ended
    obtain ⟨out, laid⟩ := shorter _ after (by rw [List.length_append, List.length_cons]; omega)
    exact ⟨_, by simpa using Laid.copy (.comment starts unbroken) laid⟩
  · exact ⟨_, .unended (.comment starts ended)⟩

theorem Laid.exists_opening {indent : Nat} {place : Place} {rest : List Char}
    (laid : ∀ next, ∃ out, Laid indent next rest out) :
    ∃ out, Laid indent place ('(' :: rest) out := by
  by_cases subquery : startsSubquery rest
  · obtain ⟨out, laid⟩ := laid _
    exact ⟨_, .openSubquery subquery laid⟩
  · obtain ⟨out, laid⟩ := laid _
    exact ⟨_, .copy (.opening (by simpa using subquery)) laid⟩

theorem Laid.exists_closing {indent : Nat} {place : Place} {rest : List Char}
    (laid : ∀ next, ∃ out, Laid indent next rest out) :
    ∃ out, Laid indent place (')' :: rest) out := by
  by_cases subquery : place.parentheses.head? = some true
  · obtain ⟨parentheses, stack⟩ := List.head?_eq_some_iff.mp subquery
    obtain ⟨out, laid⟩ := laid _
    exact ⟨_, .closeSubquery stack laid⟩
  · obtain ⟨out, laid⟩ := laid _
    exact ⟨_, .copy (.closing subquery) laid⟩

/-- Each text is laid out from each place on. -/
theorem exists_laid (indent : Nat) (place : Place) (chars : List Char) :
    ∃ out, Laid indent place chars out := by
  induction size : chars.length using Nat.strongRecOn generalizing place chars with
  | ind size below =>
  subst size
  cases chars with
  | nil => exact ⟨_, .nil⟩
  | cons char rest =>
    have shorter : ∀ next after, after.length < rest.length + 1 →
        ∃ out, Laid indent next after out := fun next after less => below _ less next after rfl
    have rest_laid : ∀ next, ∃ out, Laid indent next rest out :=
      fun next => shorter next rest (by omega)
    by_cases quote : char = '\x27'
    · exact quote ▸ Laid.exists_quoted shorter
    by_cases opening : char = '('
    · exact opening ▸ Laid.exists_opening rest_laid
    by_cases closing : char = ')'
    · exact closing ▸ Laid.exists_closing rest_laid
    by_cases space : char = ' '
    · obtain ⟨out, laid⟩ := rest_laid _
      exact ⟨out, space ▸ .space laid⟩
    by_cases starts : place.atStart = true ∧ ¬ beginsNothing (char :: rest)
    · obtain ⟨starts, begins⟩ := starts
      by_cases comment : startsComment (char :: rest)
      · obtain ⟨after, rest_eq⟩ := List.isPrefixOf_iff_prefix.mp comment
        obtain ⟨rfl, rfl⟩ : char = '-' ∧ rest = '-' :: after := by
          simpa [eq_comm] using rest_eq
        exact Laid.exists_comment starts fun next later less =>
          shorter next later (by rw [List.length_cons]; omega)
      · obtain ⟨⟨word, after⟩, found⟩ := Option.ne_none_iff_exists'.mp
          fun none => begins ⟨by simpa using comment, none⟩
        obtain ⟨keyword, leads, ends⟩ := clause?_eq_some_iff.mp found
        obtain ⟨⟨first, tail, rfl, -⟩, -⟩ := spelling_of_keyword keyword
        have less : after.length < rest.length + 1 := by
          have longer := congrArg List.length leads
          simp only [List.length_append, List.length_cons] at longer
          omega
        obtain ⟨out, laid⟩ := shorter _ after less
        exact ⟨_, leads ▸ Laid.clause starts keyword ends laid⟩
    · have free : place.atStart = true → beginsNothing (char :: rest) := by
        intro atStart
        by_contra begins
        exact starts ⟨atStart, begins⟩
      obtain ⟨out, laid⟩ := rest_laid _
      exact ⟨_, .copy (.char (by simp [quote, opening, closing, space]) free) laid⟩

/-! ### The scan -/

namespace State

variable {indent : Nat} {state : State}

theorem step_eq_copy {atStart : Bool} (mode : state.mode = .plain atStart) {char : Char}
    {rest : List Char} (free : atStart = true → beginsNothing (char :: rest)) :
    state.step indent char rest = state.copy indent char rest := by
  cases atStart with
  | false => simp [step, mode]
  | true => simp [step, mode, (free rfl).1, (free rfl).2]

theorem scan_quoted (indent : Nat) {body : List Char} (unquoted : '\x27' ∉ body) (written : List Char)
    (parentheses : List Bool) (rest : List Char) :
    scan indent { written, parentheses, mode := .quoted } (body ++ rest) =
      scan indent { written := body.reverse ++ written, parentheses, mode := .quoted } rest := by
  induction body generalizing written with
  | nil => rfl
  | cons char body ih =>
    simp only [List.mem_cons, not_or] at unquoted
    simp [scan, step, push, Ne.symm unquoted.1, ih unquoted.2]

theorem scan_comment (indent : Nat) {body : List Char} (unbroken : '\n' ∉ body) (written : List Char)
    (parentheses : List Bool) (rest : List Char) :
    scan indent { written, parentheses, mode := .comment } (body ++ rest) =
      scan indent { written := body.reverse ++ written, parentheses, mode := .comment } rest := by
  induction body generalizing written with
  | nil => rfl
  | cons char body ih =>
    simp only [List.mem_cons, not_or] at unbroken
    simp [scan, step, push, Ne.symm unbroken.1, ih unbroken.2]

/-- The rest of a clause keyword is copied. -/
theorem scan_keyword {tail : List Char} (nonempty : tail ≠ []) (written : List Char)
    (parentheses : List Bool) (rest : List Char) :
    scan indent { written, parentheses, mode := .keyword tail.length } (tail ++ rest) =
      scan indent
        { written := tail.reverse ++ written, parentheses, mode := .plain false } rest := by
  induction tail generalizing written with
  | nil => exact absurd rfl nonempty
  | cons char tail ih =>
    cases tail with
    | nil => simp [scan, step, push]
    | cons next tail =>
      have others := ih (by simp) (char :: written)
      simpa [scan, step, push] using others

/-- The state of a scan at a place, where `kept` has been written before the spaces that are
held back. -/
structure IsAt (state : State) (place : Place) (kept : List Char) : Prop where
  written : state.written = blanks place.spaces ++ kept
  unspaced : kept.head? ≠ some ' '
  fresh : place.fresh = kept.head?.all (· == '\n')
  parentheses : state.parentheses = place.parentheses
  mode : state.mode = .plain place.atStart

variable {place : Place} {kept : List Char}

theorem IsAt.dropWhile (isAt : state.IsAt place kept) :
    state.written.dropWhile (· == ' ') = kept := by
  have unspaced := isAt.unspaced
  rw [isAt.written]
  generalize place.spaces = count
  induction count with
  | zero =>
    cases kept with
    | nil => rfl
    | cons char kept =>
      exact List.dropWhile_cons_of_neg (by simpa using unspaced)
  | succ count ih => simpa [blanks, List.replicate_succ] using ih

/-- A new line is started after what has been written. -/
theorem IsAt.breakLine (isAt : state.IsAt place kept) (indent : Nat) (parentheses : List Bool)
    (mode : Mode) :
    ({ state with parentheses, mode }).breakLine indent =
      { written := blanks (indent * parentheses.length) ++ (place.lineEnd ++ kept)
        parentheses, mode } := by
  have dropped := isAt.dropWhile
  have fresh := isAt.fresh
  simp only [State.breakLine, dropped, Place.lineEnd, fresh]
  cases kept with
  | nil => rfl
  | cons char kept =>
    by_cases newline : char = '\n'
    · subst newline
      rfl
    · simp [newline, blanks]

end State

theorem reverse_blanks (count : Nat) : (blanks count).reverse = blanks count :=
  List.reverse_replicate

theorem Copies.last {parentheses : List Bool} {atStart : Bool} {chunk rest : List Char}
    {next : Place} (copies : Copies parentheses atStart chunk rest next) :
    ∃ front last, chunk = front ++ [last] ∧ last ≠ ' ' ∧ next.spaces = 0 ∧
      next.fresh = (last == '\n') := by
  cases copies with
  | @quoted body => exact ⟨'\x27' :: body, '\x27', by simp, by decide, rfl, rfl⟩
  | @comment body => exact ⟨'-' :: '-' :: body, '\n', by simp, by decide, rfl, rfl⟩
  | opening => exact ⟨[], '(', rfl, by decide, rfl, rfl⟩
  | closing => exact ⟨[], ')', rfl, by decide, rfl, rfl⟩
  | @char char _ plain => exact ⟨[], char, rfl, by rintro rfl; simp at plain, rfl, rfl⟩

/-- The scan copies what is copied. -/
theorem Copies.scan_append {indent : Nat} {state : State} {parentheses : List Bool}
    {atStart : Bool} {chunk rest : List Char} {next : Place}
    (copies : Copies parentheses atStart chunk rest next)
    (stack : state.parentheses = parentheses) (mode : state.mode = .plain atStart) :
    scan indent state (chunk ++ rest) =
      scan indent
        { written := chunk.reverse ++ state.written, parentheses := next.parentheses
          mode := .plain next.atStart } rest := by
  cases copies with
  | @quoted body _ unquoted =>
    have first : state.step indent '\x27' (body ++ '\x27' :: rest) =
        { state with written := '\x27' :: state.written, mode := .quoted } :=
      State.step_eq_copy mode fun _ => beginsNothing_of_ne (by decide) rfl _
    rw [List.cons_append, List.append_assoc, scan, List.singleton_append, first,
      State.scan_quoted indent unquoted]
    simp [scan, State.step, State.push, stack]
  | @comment body _ starts unbroken =>
    subst starts
    simp [scan, State.step, mode, startsComment, State.push,
      State.scan_comment indent unbroken, stack]
  | opening plain =>
    have opened : state.step indent '(' rest = _ :=
      State.step_eq_copy mode fun _ => beginsNothing_of_ne (by decide) rfl _
    simp [scan, opened, State.copy, State.openParenthesis, plain, stack]
  | closing plain =>
    have closed : state.step indent ')' rest = _ :=
      State.step_eq_copy mode fun _ => beginsNothing_of_ne (by decide) rfl _
    simp [scan, closed, State.copy, State.closeParenthesis, stack, plain, State.push]
  | @char char _ plain free =>
    have copied : state.step indent char rest = _ := State.step_eq_copy mode free
    simp only [List.mem_cons, not_or] at plain
    simp [scan, copied, State.copy, plain, State.push, stack]

theorem Unended.written_scan {indent : Nat} {state : State} {atStart : Bool} {chars : List Char}
    (unended : Unended atStart chars) (mode : state.mode = .plain atStart) :
    (scan indent state chars).written = chars.reverse ++ state.written := by
  cases unended with
  | @quoted body unquoted =>
    have first : state.step indent '\x27' body =
        { state with written := '\x27' :: state.written, mode := .quoted } :=
      State.step_eq_copy mode fun _ => beginsNothing_of_ne (by decide) rfl _
    have inside := State.scan_quoted indent unquoted ('\x27' :: state.written)
      state.parentheses []
    rw [List.append_nil] at inside
    simp [scan, first, inside]
  | @comment body starts unbroken =>
    subst starts
    have inside := State.scan_comment indent unbroken ('-' :: '-' :: state.written)
      state.parentheses []
    rw [List.append_nil] at inside
    simp [scan, State.step, mode, startsComment, State.push, inside]

/-- The scan goes on from what a place of it has before it. -/
theorem State.IsAt.copied {state : State} {place next : Place} {kept chunk rest : List Char}
    (isAt : state.IsAt place kept) {parentheses : List Bool} {atStart : Bool}
    (copies : Copies parentheses atStart chunk rest next) :
    State.IsAt
      { written := chunk.reverse ++ state.written, parentheses := next.parentheses
        mode := .plain next.atStart }
      next (chunk.reverse ++ (blanks place.spaces ++ kept)) := by
  obtain ⟨front, last, rfl, solid, spaces, fresh⟩ := copies.last
  exact ⟨by simp [spaces, isAt.written, blanks], by simpa using solid, by simp [fresh], rfl, rfl⟩

/-- A clause keyword is written on a new line. -/
theorem State.IsAt.scan_clause {indent : Nat} {state : State} {place : Place} {kept : List Char}
    (isAt : state.IsAt place kept) (starts : place.atStart = true) {word rest : List Char}
    (keyword : word ∈ keywords) (ends : endsWord rest) :
    scan indent state (word ++ rest) =
      scan indent
        { written := word.reverse ++ (blanks (indent * place.depth) ++ (place.lineEnd ++ kept))
          parentheses := place.parentheses, mode := .plain false } rest := by
  obtain ⟨⟨first, tail, rfl, capital, more⟩, -⟩ := spelling_of_keyword keyword
  have dash : first ≠ '-' := by
    rintro rfl
    cases capital
  have noComment : startsComment (first :: (tail ++ rest)) = false := by
    simp [← Bool.not_eq_true, startsComment_cons_iff, dash]
  have found := clause?_eq_some_iff.mpr ⟨keyword, rfl, ends⟩
  have broken := isAt.breakLine indent state.parentheses state.mode
  have started : state.step indent first (tail ++ rest) =
      { written := first :: (blanks (indent * place.depth) ++ (place.lineEnd ++ kept))
        parentheses := place.parentheses, mode := .keyword tail.length } := by
    rw [List.cons_append] at found
    simp [State.step, isAt.mode, starts, noComment, found, broken, State.push, isAt.parentheses,
      Place.depth]
  rw [List.cons_append, scan, started, State.scan_keyword more]
  simp

/-- A line ends after the parenthesis before a subquery. -/
theorem State.IsAt.step_openSubquery {indent : Nat} {state : State} {place : Place}
    {kept : List Char} (isAt : state.IsAt place kept) {rest : List Char}
    (subquery : startsSubquery rest) :
    state.step indent '(' rest =
      { written := blanks (indent * (place.depth + 1)) ++ '\n' :: '(' :: state.written
        parentheses := true :: place.parentheses, mode := .plain true } := by
  have isOpen : State.IsAt { state with written := '(' :: state.written }
      { fresh := false, parentheses := place.parentheses, atStart := place.atStart }
      ('(' :: state.written) :=
    ⟨by simp [blanks], by simp, rfl, isAt.parentheses, isAt.mode⟩
  have broken := isOpen.breakLine indent (true :: state.parentheses) (.plain true)
  rw [State.step_eq_copy isAt.mode fun _ => beginsNothing_of_ne (by decide) rfl _, State.copy,
    State.openParenthesis]
  simp only [subquery, if_true]
  rw [broken]
  simp [isAt.parentheses, Place.lineEnd, Place.depth]

/-- The parenthesis after a subquery is written on a new line. -/
theorem State.IsAt.step_closeSubquery {indent : Nat} {state : State} {place : Place}
    {kept : List Char} (isAt : state.IsAt place kept) {parentheses : List Bool}
    (subquery : place.parentheses = true :: parentheses) (rest : List Char) :
    state.step indent ')' rest =
      { written :=
          ')' :: (blanks (indent * parentheses.length) ++ (place.lineEnd ++ kept))
        parentheses, mode := .plain false } := by
  have broken := isAt.breakLine indent parentheses (.plain false)
  rw [State.step_eq_copy isAt.mode fun _ => beginsNothing_of_ne (by decide) rfl _, State.copy,
    State.closeParenthesis]
  simp only [isAt.parentheses, subquery, List.head?_cons, List.tail_cons, beq_self_eq_true,
    if_true, State.push]
  rw [broken]

theorem Place.reverse_lineEnd (place : Place) : place.lineEnd.reverse = place.lineEnd := by
  unfold Place.lineEnd
  split <;> rfl

/-- The scan writes what a text is laid out as. -/
theorem written_scan {indent : Nat} {place : Place} {chars out : List Char}
    (laid : Laid indent place chars out) {state : State} {kept : List Char}
    (isAt : state.IsAt place kept) :
    (scan indent state chars).written = out.reverse ++ kept := by
  induction laid generalizing state kept with
  | nil => simp [scan, isAt.written, reverse_blanks]
  | unended unended => simp [unended.written_scan isAt.mode, isAt.written, reverse_blanks]
  | @space place rest out after ih =>
    have copied : state.step indent ' ' rest = _ :=
      State.step_eq_copy isAt.mode fun _ => beginsNothing_of_ne (by decide) rfl _
    rw [scan, copied]
    refine ih ⟨?_, isAt.unspaced, isAt.fresh, isAt.parentheses, rfl⟩
    simp [State.copy, State.push, isAt.written, blanks, List.replicate_succ]
  | copy copies after ih =>
    rw [copies.scan_append isAt.parentheses isAt.mode, ih (isAt.copied copies)]
    simp [reverse_blanks]
  | @clause place word rest out starts keyword ends after ih =>
    obtain ⟨-, ⟨front, last, rfl, capital⟩, -⟩ := spelling_of_keyword keyword
    have solid : last ≠ ' ' ∧ last ≠ '\n' := by
      constructor <;> rintro rfl <;> cases capital
    rw [isAt.scan_clause starts keyword ends, @ih _ ((front ++ [last]).reverse ++
      (blanks (indent * place.depth) ++ (place.lineEnd ++ kept)))
      ⟨by simp [blanks], by simpa using solid.1, by simpa using solid.2, rfl, rfl⟩]
    simp [reverse_blanks, Place.reverse_lineEnd]
  | @openSubquery place rest out subquery after ih =>
    rw [scan, isAt.step_openSubquery subquery,
      @ih _ ('\n' :: '(' :: state.written) ⟨rfl, by simp, rfl, rfl, rfl⟩]
    simp [isAt.written, reverse_blanks]
  | @closeSubquery place parentheses rest out subquery after ih =>
    rw [scan, isAt.step_closeSubquery subquery,
      @ih _ (')' :: (blanks (indent * parentheses.length) ++ (place.lineEnd ++ kept)))
        ⟨by simp [blanks], by simp, rfl, rfl, rfl⟩]
    simp [reverse_blanks, Place.reverse_lineEnd]

theorem State.isAt_start : State.IsAt {} {} [] :=
  ⟨rfl, by simp, rfl, rfl, rfl⟩

/-- A text is laid out from left to right. -/
theorem laid_format (indent : Nat) (sql : String) :
    Laid indent {} sql.toList (format indent sql).toList := by
  obtain ⟨out, laid⟩ := exists_laid indent {} sql.toList
  have written := written_scan laid State.isAt_start
  simpa [format, written] using laid

theorem format_eq {indent : Nat} {sql : String} {out : List Char}
    (laid : Laid indent {} sql.toList out) : format indent sql = String.ofList out := by
  have written := written_scan laid State.isAt_start
  simp [format, written]

end Layout

end BoundSql
