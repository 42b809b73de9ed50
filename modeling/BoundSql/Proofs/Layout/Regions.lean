import BoundSql.Builder
import BoundSql.Proofs.Layout.Scan
/-!
# Laying out quoted identifiers

The scan that lays out a statement knows nothing of quoted identifiers.  It leaves them as
they are unless one has a closing parenthesis in it or, after a blank, a clause keyword
that a blank follows.
-/

namespace BoundSql

open Text.Quoted

namespace Layout

/-- Whether a line could be started inside an identifier: at a closing parenthesis, or at a
clause keyword after a blank, with which the identifier does not end. -/
def breaks : List Char → Bool
  | [] => false
  | char :: rest =>
    char == ')' || Text.isBlank char &&
      (keywords.any fun word => (afterWord? word rest).any fun after => !after.isEmpty) ||
      breaks rest

example : breaks "a FROM b".toList = true := by decide

example : breaks "FROM LIMIT".toList = false := by decide

variable {quote : Char}

theorem afterWord?_cons_cons (first char : Char) (word chars : List Char) :
    afterWord? (first :: word) (char :: chars) =
      if first = char then afterWord? word chars else none := by
  by_cases same : first = char <;> simp [afterWord?, same]

theorem calm_append {chars : List Char} (unquoted : quote ∉ chars) {rest : List Char}
    {found : List String} (calm : Calm quote { found } rest) :
    Calm quote { found } (chars ++ rest) := by
  induction chars with
  | nil => exact calm
  | cons char chars ih =>
    simp only [List.mem_cons, not_or] at unquoted
    refine ⟨fun inside => inside.elim, ?_⟩
    simpa [RegionReader.read, Ne.symm unquoted.1] using ih unquoted.2

theorem calm_closing {rest : List Char} (ends : rest.head? ≠ some quote)
    (calm : ∀ found, Calm quote { found } rest) (found : List String) (content : List Char) :
    Calm quote { found, reading := .closing content } rest := by
  cases rest with
  | nil => trivial
  | cons char rest =>
    have other : char ≠ quote := by simpa using ends
    refine ⟨fun inside => inside.elim, ?_⟩
    have next := (calm (found ++ [String.ofList content])).2
    simpa [RegionReader.read, other] using next

section Quotes

variable (foreign : isForeign quote) (solid : Text.isBlank quote = false)
include foreign solid

theorem afterWord?_quote {word : List Char} (absent : quote ∉ word) (rest : List Char) :
    afterWord? word (quote :: rest) = none := by
  cases word with
  | nil =>
    have other : quote ≠ '(' := (ne_of_isSign foreign (by decide)).symm
    simp [afterWord?, solid, other]
  | cons first word =>
    rw [afterWord?_cons_cons, if_neg]
    rintro rfl
    exact absent List.mem_cons_self

/-- A word that is found in a quoted identifier is found in the identifier, and does not end
it. -/
theorem afterWord?_double {word : List Char} (absent : quote ∉ word) (chars rest : List Char) :
    afterWord? word (double quote chars ++ quote :: rest) = none ∨
      (afterWord? word chars).any (fun after => !after.isEmpty) := by
  induction word generalizing chars with
  | nil =>
    cases chars with
    | nil => exact .inl (afterWord?_quote foreign solid absent rest)
    | cons char more =>
      by_cases same : char = quote
      · exact .inl (by simpa [double, same] using afterWord?_quote foreign solid absent _)
      · by_cases ends : Text.isBlank char || char == '('
        · exact .inr (by simp [afterWord?, ends])
        · exact .inl (by simp [double, same, afterWord?, ends])
  | cons first word ih =>
    cases chars with
    | nil => exact .inl (afterWord?_quote foreign solid absent rest)
    | cons char more =>
      by_cases same : char = quote
      · exact .inl (by simpa [double, same] using afterWord?_quote foreign solid absent _)
      · rw [double, if_neg same, List.cons_append, afterWord?_cons_cons, afterWord?_cons_cons]
        split
        · exact ih (fun inside => absent (List.mem_cons_of_mem _ inside)) more
        · exact .inl rfl

theorem clause?_double {chars : List Char}
    (unbroken : (keywords.any fun word =>
      (afterWord? word chars).any fun after => !after.isEmpty) = false) (rest : List Char) :
    clause? (double quote chars ++ quote :: rest) = none := by
  have signs : keywords.all fun word => word.all isSign := rfl
  simp only [List.all_eq_true] at signs
  rw [clause?, List.findSome?_eq_none_iff]
  intro word among
  rw [Option.map_eq_none_iff]
  have absent : quote ∉ word := fun inside =>
    ne_of_isSign foreign (signs word among quote inside) rfl
  refine (afterWord?_double foreign solid absent chars rest).resolve_right fun found => ?_
  rw [List.any_eq_false] at unbroken
  exact unbroken word among found

/-- The region of an identifier in which no line could be started. -/
theorem calm_double {chars rest : List Char} (flat : '(' ∉ chars)
    (unbroken : breaks chars = false) {found : List String} {content : List Char}
    (calm : Calm quote { found, reading := .closing (content ++ chars) } rest) :
    Calm quote { found, reading := .inside content } (double quote chars ++ quote :: rest) := by
  have closes : ∀ {content rest}, Calm quote { found, reading := .closing content } rest →
      Calm quote { found, reading := .inside content } (quote :: rest) := by
    intro content rest calm
    refine ⟨fun _ => ⟨?_, ?_, ?_⟩, ?_⟩
    · exact (ne_of_isSign foreign (by decide)).symm
    · exact (ne_of_isSign foreign (by decide)).symm
    · simp [solid]
    · simpa [RegionReader.read] using calm
  induction chars generalizing content with
  | nil => exact closes (by simpa using calm)
  | cons char chars ih =>
    simp only [breaks, Bool.or_eq_false_iff, Bool.and_eq_false_iff, beq_eq_false_iff_ne]
      at unbroken
    obtain ⟨⟨unclosed, blank⟩, others⟩ := unbroken
    simp only [List.mem_cons, not_or] at flat
    have inner : Calm quote { found, reading := .inside (content ++ [char]) }
        (double quote chars ++ quote :: rest) :=
      ih flat.2 others (by simpa using calm)
    by_cases same : char = quote
    · -- After the first of two quotes the region seems closed until the second comes.
      rw [double, if_pos same]
      refine closes ⟨fun inside => inside.elim, ?_⟩
      simpa [RegionReader.read, same] using inner
    · rw [double, if_neg same]
      refine ⟨fun _ => ⟨Ne.symm flat.1, unclosed, fun isBlank => ?_⟩, ?_⟩
      · exact clause?_double foreign solid (blank.resolve_left (by simp [isBlank])) rest
      · simpa [RegionReader.read, same] using inner

theorem calm_encode {identifier : String} (flat : '(' ∉ identifier.toList)
    (unbroken : breaks identifier.toList = false) {rest : List Char}
    (ends : rest.head? ≠ some quote) (calm : ∀ found, Calm quote { found } rest)
    (found : List String) :
    Calm quote { found } ((encode quote identifier).toList ++ rest) := by
  simp only [encode, String.toList_ofList, List.cons_append, List.append_assoc]
  refine ⟨fun inside => inside.elim, ?_⟩
  have region : Calm quote { found, reading := .closing ([] ++ identifier.toList) } rest :=
    calm_closing ends calm found _
  simpa [RegionReader.read] using calm_double foreign solid flat unbroken region

end Quotes

end Layout

open Layout

/-! ### Pieces -/

/-- Whether no line could be started in the identifiers of a piece. -/
def Piece.IsUnbroken (piece : Piece) : Prop :=
  ∀ identifier ∈ piece.segments,
    '(' ∉ identifier.toList ∧ breaks identifier.toList = false

section Rendering

variable {dialect : Dialect} {quote : Char} (foreign : isForeign quote)
  (solid : Text.isBlank quote = false)
include foreign solid

theorem Piece.calm_render (quoting : dialect.quote = some quote) {piece : Piece}
    (unquoted : piece.IsUnquoted quote) (unbroken : piece.IsUnbroken) (number : Nat)
    {rest : List Char} (ends : piece.segments = [] ∨ rest.head? ≠ some quote)
    (calm : ∀ found, Calm quote { found } rest) (found : List String) :
    Calm quote { found } ((piece.render dialect number).toList ++ rest) := by
  cases piece with
  | text content => exact calm_append unquoted (calm found)
  | remark comment => exact calm_append (not_mem_render_remark foreign unquoted number) (calm found)
  | value bound => exact calm_append (not_mem_token foreign number) (calm found)
  | name identifier =>
    simp only [segments, List.cons_ne_self, false_or] at ends
    obtain ⟨flat, unbroken⟩ := unbroken identifier (by simp [segments])
    simpa [render, Dialect.quoteIdentifier, quoting] using
      calm_encode foreign solid flat unbroken ends calm found
  | unnamedColumn =>
    simp only [segments, reduceCtorEq, false_or] at ends
    have blank : quote ∉ [' '] := by
      simpa using (ne_of_isSign foreign (by decide)).symm
    have empty : Calm quote { found } ((encode quote "").toList ++ rest) :=
      calm_encode foreign solid (by simp) rfl ends calm found
    simpa [render, Dialect.quoteIdentifier, quoting] using calm_append blank empty

theorem Path.calm_render {allowed : Piece → Prop} (quoting : dialect.quote = some quote)
    {start stop : Place} {pieces : List Piece} (path : Path allowed start pieces stop)
    (unquoted : ∀ piece ∈ pieces, piece.IsUnquoted quote)
    (unbroken : ∀ piece ∈ pieces, piece.IsUnbroken) (number : Nat) (found : List String) :
    Calm quote { found } (Draft.render dialect number pieces).toList := by
  induction path generalizing number found with
  | nil => trivial
  | loosen => trivial
  | @cons _ next _ piece rest step path ih =>
    have others := ih (fun piece member => unquoted piece (by simp [member]))
      (fun piece member => unbroken piece (by simp [member]))
      (number + piece.values.length)
    rw [Draft.render, String.toList_append]
    exact piece.calm_render foreign solid quoting (unquoted piece (by simp))
      (unbroken piece (by simp)) number (segments_or_head_render_ne foreign _ step path _) others
      found

end Rendering

/-! ### Statements -/

/-- What is quoted of a mention is no expression. -/
theorem Mention.not_isExpression_of_mem_segments {mention : Mention} {segment : String}
    (among : segment ∈ mention.segments) : isExpression segment = false := by
  have single : ∀ {name}, segment ∈ identifier name → isExpression segment = false := by
    intro name among
    unfold identifier at among
    split at among
    · cases among
    · next plain =>
      rw [List.mem_singleton.mp among]
      simpa using fun expression => plain (.inr expression)
  have dotted : ∀ {name}, segment ∈ dotted name → isExpression segment = false := by
    intro name among
    unfold Mention.dotted at among
    split at among
    · cases among
    · obtain ⟨part, -, among⟩ := List.mem_flatMap.mp among
      exact single among
  cases mention with
  | table source =>
    simp only [segments, List.mem_append, List.mem_flatMap] at among
    rcases among with among | ⟨_, -, among⟩
    · exact dotted among
    · exact single among
  | column one =>
    simp only [segments, List.mem_append, List.mem_flatMap] at among
    rcases among with ⟨_, -, among⟩ | among
    · exact dotted among
    · exact single among
  | aliasName text => exact single among
  | verbatim | comment => cases among

theorem Piece.IsSign.isUnbroken {piece : Piece} (sign : piece.IsSign) : piece.IsUnbroken := by
  cases piece with
  | text | value => simp [Piece.IsUnbroken, Piece.segments]
  | _ => exact sign.elim

theorem Mention.Writes.isUnbroken {mention : Mention} {piece : Piece}
    (writes : mention.Writes piece)
    (unbroken : ∀ segment ∈ mention.segments, breaks segment.toList = false) :
    piece.IsUnbroken := by
  cases writes with
  | exposed | remark => simp [Piece.IsUnbroken, Piece.segments]
  | segment among =>
    simp only [Piece.IsUnbroken, Piece.segments, List.mem_singleton, forall_eq]
    refine ⟨?_, unbroken _ among⟩
    simpa [isExpression] using Mention.not_isExpression_of_mem_segments among
  | unnamedColumn => simp [Piece.IsUnbroken, Piece.segments, breaks]

theorem Builder.write_eq (builder : Builder) (statement : Statement) :
    builder.write statement = (statement.compile builder.dialect).map Compiled.sql := by
  unfold write compile
  cases statement.compile builder.dialect <;> rfl

namespace Statement

/-- The compiled text of a statement has its quoted regions where no line could be started in
an identifier. -/
theorem calm_compile {statement : Statement} {compiled : Compiled}
    (unquoted : ∀ mention ∈ statement.mentions, ∀ text ∈ mention.exposed, '\x60' ∉ text.toList)
    (unbroken : ∀ mention ∈ statement.mentions, ∀ segment ∈ mention.segments,
      breaks segment.toList = false)
    (success : statement.compile .mysql = .ok compiled) :
    Calm '\x60' {} compiled.sql.toList := by
  obtain ⟨finished, sql, -⟩ := compile_eq_ok_iff.mp success
  have shows := statement.shows_draft
  have foreign : isForeign '\x60' := by decide
  have path : Path (fun _ => True) ⟨0, true⟩ statement.draft.pieces ⟨0, false⟩ :=
    level_draft (fun _ _ _ _ => trivial) 0 finished
  rw [sql]
  refine path.calm_render foreign (by decide) rfl ?_ ?_ _ _
  · intro piece member
    obtain sign | ⟨mention, among, writes⟩ := shows.origin piece member
    · exact Piece.isUnquoted_of_isSign foreign sign
    · exact writes.isUnquoted (unquoted mention among)
  · intro piece member
    obtain sign | ⟨mention, among, writes⟩ := shows.origin piece member
    · exact sign.isUnbroken
    · exact writes.isUnbroken (unbroken mention among)

/-- Laying out a statement leaves its quoted identifiers as they are if no line could be
started in one of them. -/
theorem regions_writeFormatted {builder : Builder} {indent : Nat}
    (mysql : builder.dialect = .mysql) (lays : builder.formatter = Layout.format indent)
    {statement : Statement} {text : String}
    (unquoted : ∀ mention ∈ statement.mentions, ∀ text ∈ mention.exposed, '\x60' ∉ text.toList)
    (unbroken : ∀ mention ∈ statement.mentions, ∀ segment ∈ mention.segments,
      breaks segment.toList = false)
    (written : builder.write statement = .ok text) :
    ∃ formatted, builder.writeFormatted statement = .ok formatted ∧
      regions? '\x60' formatted = regions? '\x60' text := by
  refine ⟨Layout.format indent text, ?_, ?_⟩
  · rw [Builder.writeFormatted, written, lays]
    rfl
  · rw [Builder.write_eq, mysql] at written
    cases success : statement.compile .mysql with
    | error error =>
      rw [success] at written
      cases written
    | ok compiled =>
      rw [success] at written
      cases written
      exact regions?_format (by decide) (by decide) (calm_compile unquoted unbroken success)

/-- A statement that returns one column. -/
def returning (name : String) : Statement :=
  .select ((Select.ofTable { name := "t" }).setColumns [{ value := name }])

/-- A clause keyword that no blank precedes is left where it is. -/
theorem regions_writeFormatted_returning :
    ∃ text formatted, (Builder.ofDialect .mysql).write (returning "FROM b LIMIT") = .ok text ∧
      (Builder.ofDialect .mysql).writeFormatted (returning "FROM b LIMIT") = .ok formatted ∧
      regions? '\x60' formatted = regions? '\x60' text := by
  have written : (Builder.ofDialect .mysql).write (returning "FROM b LIMIT") =
      .ok "SELECT `t`.`FROM b LIMIT` FROM `t`" := by decide +kernel
  obtain ⟨formatted, laid, same⟩ :=
    @regions_writeFormatted (.ofDialect .mysql) _ rfl rfl _ _ (by decide +kernel)
      (by decide +kernel) written
  exact ⟨_, formatted, written, laid, same⟩

/-- A clause keyword between blanks starts a line inside the identifier. -/
theorem regions_writeFormatted_ne :
    ∃ text formatted, (Builder.ofDialect .mysql).write (returning "a FROM b") = .ok text ∧
      (Builder.ofDialect .mysql).writeFormatted (returning "a FROM b") = .ok formatted ∧
      regions? '\x60' text = some ["t", "a FROM b", "t"] ∧
      regions? '\x60' formatted = some ["t", "a\nFROM b", "t"] :=
  ⟨_, _, rfl, rfl, by decide +kernel, by decide +kernel⟩

end Statement

end BoundSql
