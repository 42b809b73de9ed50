import BoundSql.Text.Quoted
/-!
# Quoted regions

A reader that knows nothing of statements finds the quoted regions of a text.  Outside
of them a quote opens one.  Inside, two quotes in a row are one quote of the content,
and a single one closes the region.
-/

namespace BoundSql.Text.Quoted

/-- Where a reader of regions is, with the content of the region so far. -/
inductive Reading where
  | outside
  | inside (content : List Char)
  /-- After a quote inside a region, which closes it unless another quote follows. -/
  | closing (content : List Char)

/-- Reads the contents of the regions in a text, which must not end inside one. -/
def readRegions (quote : Char) : Reading → List Char → Option (List String)
  | .outside, [] => some []
  | .inside _, [] => none
  | .closing content, [] => some [String.ofList content]
  | .outside, char :: rest =>
    if char = quote then readRegions quote (.inside []) rest
    else readRegions quote .outside rest
  | .inside content, char :: rest =>
    if char = quote then readRegions quote (.closing content) rest
    else readRegions quote (.inside (content ++ [char])) rest
  | .closing content, char :: rest =>
    if char = quote then readRegions quote (.inside (content ++ [quote])) rest
    else (readRegions quote .outside rest).map (String.ofList content :: ·)

/-- The contents of the quoted regions of a text from left to right. -/
def regions? (quote : Char) (text : String) : Option (List String) :=
  readRegions quote .outside text.toList

example : regions? '\x60' "SELECT `a``b`.`` FROM ````" = some ["a`b", "", "`"] := by decide

/-! ### Steps of the reader -/

theorem readRegions_append {quote : Char} {chars : List Char} (unquoted : quote ∉ chars)
    (rest : List Char) :
    readRegions quote .outside (chars ++ rest) = readRegions quote .outside rest := by
  induction chars with
  | nil => rfl
  | cons char chars ih =>
    simp only [List.mem_cons, not_or] at unquoted
    simp [readRegions, Ne.symm unquoted.1, ih unquoted.2]

/-- Doubled quotes do not close the region in which they stand. -/
theorem readRegions_double (quote : Char) (content chars rest : List Char) :
    readRegions quote (.inside content) (double quote chars ++ quote :: rest) =
      readRegions quote (.closing (content ++ chars)) rest := by
  induction chars generalizing content with
  | nil => simp [double, readRegions]
  | cons char chars ih =>
    by_cases same : char = quote
    · subst same
      simp [double, readRegions, ih]
    · simp [double, readRegions, same, ih]

/-- A region is closed where no further quote follows. -/
theorem readRegions_closing {quote : Char} (content : List Char) {rest : List Char}
    (ends : rest.head? ≠ some quote) :
    readRegions quote (.closing content) rest =
      (readRegions quote .outside rest).map (String.ofList content :: ·) := by
  cases rest with
  | nil => rfl
  | cons char rest =>
    have other : char ≠ quote := by simpa using ends
    simp [readRegions, other]

theorem readRegions_encode_append {quote : Char} (text : String) {rest : List Char}
    (ends : rest.head? ≠ some quote) :
    readRegions quote .outside ((encode quote text).toList ++ rest) =
      (readRegions quote .outside rest).map (text :: ·) := by
  have opened : readRegions quote .outside ((encode quote text).toList ++ rest) =
      readRegions quote (.inside []) (double quote text.toList ++ quote :: rest) := by
    simp [encode, readRegions]
  rw [opened, readRegions_double, List.nil_append, readRegions_closing _ ends,
    String.ofList_toList]

end BoundSql.Text.Quoted
