import BoundSql.Text.Regions
/-!
# Readers of quoted regions

The reader of quoted regions as a machine that takes one character after the other, so
that it can be run beside another machine.  Outside of regions it is the same to it how
many blanks come, except that the first tells it that the region before is closed.
-/

namespace BoundSql

open Text.Quoted

/-! ### The reader, character by character -/

/-- A reader with the regions that it has found. -/
structure RegionReader where
  found : List String := []
  reading : Reading := .outside

namespace RegionReader

variable {quote : Char}

def read (quote : Char) (reader : RegionReader) (char : Char) : RegionReader :=
  match reader.reading with
  | .outside => if char = quote then { reader with reading := .inside [] } else reader
  | .inside content =>
    { reader with
      reading := if char = quote then .closing content else .inside (content ++ [char]) }
  | .closing content =>
    if char = quote then { reader with reading := .inside (content ++ [quote]) }
    else { found := reader.found ++ [String.ofList content] }

def IsInside (reader : RegionReader) : Prop :=
  match reader.reading with
  | .inside _ => True
  | .outside | .closing _ => False

/-- The reader after a region that was just closed. -/
def settled (reader : RegionReader) : RegionReader :=
  match reader.reading with
  | .outside | .inside _ => reader
  | .closing content => { found := reader.found ++ [String.ofList content] }

def result? (reader : RegionReader) : Option (List String) :=
  match reader.reading with
  | .outside | .closing _ => some reader.settled.found
  | .inside _ => none

/-- The regions that a reader finds are those that it has found and those that are read on
from its place. -/
theorem result?_foldl (reader : RegionReader) (chars : List Char) :
    (chars.foldl (read quote) reader).result? =
      (readRegions quote reader.reading chars).map (reader.found ++ ·) := by
  induction chars generalizing reader with
  | nil =>
    obtain ⟨found, reading⟩ := reader
    cases reading <;> simp [result?, settled, readRegions]
  | cons char rest ih =>
    rw [List.foldl_cons, ih]
    obtain ⟨found, reading⟩ := reader
    cases reading with
    | outside => by_cases same : char = quote <;> simp [read, readRegions, same]
    | inside content => by_cases same : char = quote <;> simp [read, readRegions, same]
    | closing content =>
      by_cases same : char = quote
      · simp [read, readRegions, same]
      · simp [read, readRegions, same, Function.comp_def]

theorem regions?_eq (text : String) :
    regions? quote text = (text.toList.foldl (read quote) {}).result? := by
  rw [result?_foldl, regions?]
  simp

theorem settled_of_not_inside {reader : RegionReader} (free : ¬ reader.IsInside) :
    reader.settled.reading = .outside := by
  obtain ⟨found, reading⟩ := reader
  cases reading with
  | outside => rfl
  | inside => exact absurd trivial free
  | closing => rfl

@[simp] theorem settled_settled (reader : RegionReader) :
    reader.settled.settled = reader.settled := by
  obtain ⟨found, reading⟩ := reader
  cases reading <;> rfl

/-- Outside of regions all but quotes only settles the reader. -/
theorem read_of_ne {reader : RegionReader} (free : ¬ reader.IsInside) {char : Char}
    (other : char ≠ quote) : reader.read quote char = reader.settled := by
  obtain ⟨found, reading⟩ := reader
  cases reading with
  | outside => simp [read, settled, other]
  | inside => exact absurd trivial free
  | closing => simp [read, settled, other]

theorem IsInside.read {reader : RegionReader} (inside : reader.IsInside) {char : Char}
    (other : char ≠ quote) : (reader.read quote char).IsInside := by
  obtain ⟨found, reading⟩ := reader
  cases reading with
  | inside => simp [RegionReader.read, IsInside, other]
  | outside | closing => exact inside.elim

theorem not_isInside_settled {reader : RegionReader} (free : ¬ reader.IsInside) :
    ¬ reader.settled.IsInside := by
  rw [IsInside, settled_of_not_inside free]
  exact id

end RegionReader

/-! ### A text whose last character comes first -/

namespace RegionReader

variable {quote : Char}

def after (quote : Char) (written : List Char) : RegionReader :=
  written.foldr (fun char reader => reader.read quote char) {}

theorem after_cons (char : Char) (written : List Char) :
    after quote (char :: written) = (after quote written).read quote char := rfl

theorem after_cons_of_ne {char : Char} (other : char ≠ quote) {written : List Char}
    (free : ¬ (after quote (char :: written)).IsInside) :
    ¬ (after quote written).IsInside ∧
      after quote (char :: written) = (after quote written).settled := by
  have before : ¬ (after quote written).IsInside := fun inside => free (inside.read other)
  exact ⟨before, read_of_ne before other⟩

theorem after_dropWhile {dropped : Char} (other : dropped ≠ quote) {written : List Char}
    (free : ¬ (after quote written).IsInside) :
    ¬ (after quote (written.dropWhile (· == dropped))).IsInside ∧
      (after quote (written.dropWhile (· == dropped))).settled =
        (after quote written).settled := by
  induction written with
  | nil => exact ⟨free, rfl⟩
  | cons char written ih =>
    by_cases same : char = dropped
    · subst same
      obtain ⟨before, last⟩ := after_cons_of_ne other free
      rw [List.dropWhile_cons_of_pos (by simp), last, settled_settled]
      exact ih before
    · rw [List.dropWhile_cons_of_neg (by simpa using same)]
      exact ⟨free, rfl⟩

theorem after_replicate {char : Char} (other : char ≠ quote) (count : Nat)
    {written : List Char} (free : ¬ (after quote written).IsInside)
    (settled : after quote written = (after quote written).settled) :
    after quote (List.replicate count char ++ written) = after quote written := by
  induction count with
  | zero => rfl
  | succ count ih =>
    rw [List.replicate_succ, List.cons_append, after_cons, ih, read_of_ne free other, ← settled]

end RegionReader

end BoundSql
