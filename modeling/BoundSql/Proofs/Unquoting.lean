import BoundSql.Dialect
/-!
# Quoted identifiers delimit themselves

A reader of a quoted text looks one character past each quote: two quotes in a row are one
quote of the content, and a single one ends it.  It gives back the identifier that was quoted
and the text that follows, if this does not begin with a quote, and nothing else is read as
that identifier.
-/

namespace BoundSql

namespace Text.Quoted

/-- Reads the content of a quoted text, of which the first quote is read, and gives it with
what follows the quote that ends it. -/
def readContent (quote : Char) : List Char → Option (List Char × List Char)
  | [] => none
  | [char] => if char = quote then some ([], []) else none
  | char :: next :: rest =>
    if char = quote then
      if next = quote then
        (readContent quote rest).map fun (content, rest) => (quote :: content, rest)
      else
        some ([], next :: rest)
    else
      (readContent quote (next :: rest)).map fun (content, rest) => (char :: content, rest)

/-- Reads the quoted text with which a text begins, and gives its content with what
follows. -/
def read? (quote : Char) (text : String) : Option (String × String) :=
  match text.toList with
  | [] => none
  | char :: rest =>
    if char = quote then
      (readContent quote rest).map fun (content, rest) => (.ofList content, .ofList rest)
    else
      none

/-! ### Steps of the reader -/

variable {quote char : Char} {content rest chars : List Char}

theorem readContent_doubled (quote : Char) (rest : List Char) :
    readContent quote (quote :: quote :: rest) =
      (readContent quote rest).map fun (content, rest) => (quote :: content, rest) := by
  simp [readContent]

theorem readContent_closing (ends : rest.head? ≠ some quote) :
    readContent quote (quote :: rest) = some ([], rest) := by
  cases rest with
  | nil => simp [readContent]
  | cons next rest =>
    have other : next ≠ quote := by simpa using ends
    simp [readContent, other]

theorem readContent_of_ne (other : char ≠ quote) (rest : List Char) :
    readContent quote (char :: rest) =
      (readContent quote rest).map fun (content, rest) => (char :: content, rest) := by
  cases rest <;> simp [readContent, other]

/-! ### What is read -/

theorem readContent_double (quote : Char) (content : List Char)
    (ends : rest.head? ≠ some quote) :
    readContent quote (double quote content ++ quote :: rest) = some (content, rest) := by
  induction content with
  | nil => exact readContent_closing ends
  | cons char content ih =>
    rw [double]
    split
    · next same =>
      rw [List.cons_append, List.cons_append, readContent_doubled, ih, same]
      rfl
    · next other =>
      rw [List.cons_append, readContent_of_ne other, ih]
      rfl

theorem eq_double_of_readContent (read : readContent quote chars = some (content, rest)) :
    chars = double quote content ++ quote :: rest ∧ rest.head? ≠ some quote := by
  fun_induction readContent quote chars generalizing content with
  | case1 | case3 => cases read
  | case2 =>
    cases read
    exact ⟨rfl, by simp⟩
  | case4 rest ih =>
    obtain ⟨⟨inner, left⟩, inside, same⟩ := Option.map_eq_some_iff.mp read
    cases same
    obtain ⟨spelled, ends⟩ := ih inside
    exact ⟨by simp [double, spelled], ends⟩
  | case5 next rest other =>
    cases read
    exact ⟨rfl, by simpa using other⟩
  | case6 char next rest other ih =>
    obtain ⟨⟨inner, left⟩, inside, same⟩ := Option.map_eq_some_iff.mp read
    cases same
    obtain ⟨spelled, ends⟩ := ih inside
    exact ⟨by simp [double, other, spelled], ends⟩

/-- The reader takes what is quoted, where no quote follows, and nothing else. -/
theorem read?_eq_some_iff {text identifier following : String} :
    read? quote text = some (identifier, following) ↔
      text = encode quote identifier ++ following ∧ following.toList.head? ≠ some quote := by
  constructor
  · intro read
    rw [read?] at read
    split at read
    · cases read
    · next char rest spelled =>
      split at read
      · next same =>
        obtain ⟨⟨content, left⟩, inside, parts⟩ := Option.map_eq_some_iff.mp read
        cases parts
        obtain ⟨rfl, ends⟩ := eq_double_of_readContent inside
        refine ⟨String.toList_inj.mp ?_, by simpa using ends⟩
        simp [spelled, same, encode]
      · cases read
  · rintro ⟨rfl, ends⟩
    have spelled : (encode quote identifier ++ following).toList =
        quote :: (double quote identifier.toList ++ quote :: following.toList) := by
      simp [encode]
    rw [read?, spelled]
    simp [readContent_double quote _ ends]

example : read? '\x60' "`a``b`.c" = some ("a`b", ".c") := by decide

/-- Where a quoted text ends does not depend on what follows it. -/
theorem encode_append_inj {first second after following : String}
    (ends : after.toList.head? ≠ some quote) (stops : following.toList.head? ≠ some quote)
    (same : encode quote first ++ after = encode quote second ++ following) :
    first = second ∧ after = following := by
  have read : read? quote (encode quote first ++ after) = some (first, after) :=
    read?_eq_some_iff.mpr ⟨rfl, ends⟩
  have again : read? quote (encode quote first ++ after) = some (second, following) :=
    read?_eq_some_iff.mpr ⟨same, stops⟩
  cases read.symm.trans again
  exact ⟨rfl, rfl⟩

end Text.Quoted

open Text.Quoted

/-- Quoted identifiers delimit themselves.  In a dialect with a quote, the reader takes each
identifier from its quoted form and gives back the text after it, if this does not begin with
the quote, and it takes nothing else.  So where an identifier ends does not depend on the text
that follows, and no two identifiers have the same quoted form. -/
theorem Dialect.read?_quoteIdentifier {dialect : Dialect} {quote : Char}
    (quotes : dialect.quote = some quote) :
    (∀ text identifier following : String, read? quote text = some (identifier, following) ↔
      text = dialect.quoteIdentifier identifier ++ following ∧
        following.toList.head? ≠ some quote) ∧
    (∀ first second after following : String, after.toList.head? ≠ some quote →
      following.toList.head? ≠ some quote →
      dialect.quoteIdentifier first ++ after = dialect.quoteIdentifier second ++ following →
      first = second ∧ after = following) ∧
    Function.Injective dialect.quoteIdentifier := by
  have quoted : dialect.quoteIdentifier = encode quote := by
    funext identifier
    rw [Dialect.quoteIdentifier, quotes]
  rw [quoted]
  refine ⟨fun _ _ _ => read?_eq_some_iff, fun _ _ _ _ => encode_append_inj, ?_⟩
  intro first second same
  have end_of_text : "".toList.head? ≠ some quote := by simp
  exact (encode_append_inj end_of_text end_of_text (congrArg (· ++ "") same)).1

/-- An identifier that is a quote, and one that is empty at the end of the text. -/
theorem Dialect.read?_quoteIdentifier_ticks :
    Dialect.mysql.quote = some '\x60' ∧ Dialect.mysql.quoteIdentifier "`" = "````" ∧
      read? '\x60' "````.`" = some ("`", ".`") ∧ read? '\x60' "``" = some ("", "") :=
  ⟨rfl, by decide,
    ((@read?_quoteIdentifier .mysql '\x60' rfl).1 "````.`" "`" ".`").mpr (by decide),
    ((@read?_quoteIdentifier .mysql '\x60' rfl).1 "``" "" "").mpr (by decide)⟩

end BoundSql
