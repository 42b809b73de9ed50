import BoundSql.Binding.Name
/-!
# How columns name their table

A statement introduces a table once and its columns name it again.  An alias is quoted as
one identifier where the table is introduced.  Where a column names its table, the alias is
read as a name with points and quoted part by part.  The two differ exactly for an alias with
a point in it that is no expression, in a dialect that quotes.
-/

namespace BoundSql

/-! ### The parts of a name -/

namespace Text

theorem Quoted.double_append (quote : Char) (chars rest : List Char) :
    double quote (chars ++ rest) = double quote chars ++ double quote rest := by
  induction chars with
  | nil => rfl
  | cons char chars ih =>
    by_cases same : char = quote <;> simp [double, same, ih]

theorem intercalate_split (point : Char) (chars : List Char) :
    [point].intercalate (split (· == point) chars) = chars := by
  induction chars with
  | nil => rfl
  | cons char rest ih =>
    obtain ⟨piece, pieces, parts⟩ := List.exists_cons_of_ne_nil (split_ne_nil (· == point) rest)
    rw [parts] at ih
    by_cases same : char = point
    · simp [split, same, parts, List.intercalate_cons_cons, ih]
    · cases pieces with
      | nil => simp_all [split]
      | cons next pieces => simp_all [split, List.intercalate_cons_cons]

theorem split_of_notMem {point : Char} {chars : List Char} (single : point ∉ chars) :
    split (· == point) chars = [chars] := by
  induction chars with
  | nil => rfl
  | cons char rest ih =>
    simp only [List.mem_cons, not_or] at single
    simp [split, Ne.symm single.1, ih single.2]

/-- A name with a point in it has a first part, which the point ends. -/
theorem exists_split_of_mem {point : Char} {chars : List Char} (inside : point ∈ chars) :
    ∃ first rest, chars = first ++ point :: rest ∧
      split (· == point) chars = first :: split (· == point) rest := by
  induction chars with
  | nil => simp at inside
  | cons char chars ih =>
    by_cases same : char = point
    · exact ⟨[], chars, by simp [same], by simp [split, same]⟩
    · obtain ⟨first, rest, whole, parts⟩ :=
        ih ((List.mem_cons.mp inside).resolve_left (Ne.symm same))
      exact ⟨char :: first, rest, by simp [whole], by simp [split, same, parts]⟩

end Text

namespace Dialect

open Text.Quoted (double)

variable {dialect : Dialect}

/-- Whether a name is written in the same way as one identifier and part by part. -/
def writesWhole (dialect : Dialect) (name : String) : Bool :=
  dialect.quote.isNone || isExpression name || '.' ∉ name.toList

theorem identifier_of_isExpression {name : String} (expression : isExpression name) :
    dialect.identifier name = name := by
  simp [identifier, expression]

theorem identifier_of_unquoted (unquoted : dialect.quote = none) (name : String) :
    dialect.identifier name = name := by
  simp [identifier, quoteIdentifier, unquoted]

theorem toList_dotted {name : String} (plain : isExpression name = false) :
    (dialect.dotted name).toList =
      ['.'].intercalate ((Text.split (· == '.') name.toList).map fun part =>
        (dialect.identifier (String.ofList part)).toList) := by
  simp [dotted, plain, String.toList_intercalate, Function.comp_def]

theorem dotted_eq_identifier {name : String} (whole : dialect.writesWhole name) :
    dialect.dotted name = dialect.identifier name := by
  by_cases expression : isExpression name
  · rw [identifier_of_isExpression expression, dotted, if_pos expression]
  · simp only [writesWhole, expression, Bool.or_false, Bool.or_eq_true, Option.isNone_iff_eq_none,
      decide_eq_true_eq] at whole
    rcases whole with unquoted | single
    · apply String.toList_injective
      rw [toList_dotted (by simpa using expression)]
      simp [identifier_of_unquoted unquoted, Text.intercalate_split]
    · simp [dotted, expression, Text.split_of_notMem single]

/-- Points divide the parts of a name outside of the quotes, and stand inside of them where the
name is one identifier. -/
theorem dotted_ne_identifier (point : dialect.quote ≠ some '.') {name : String}
    (divided : dialect.writesWhole name = false) :
    dialect.dotted name ≠ dialect.identifier name := by
  simp only [writesWhole, Bool.or_eq_false_iff, decide_eq_false_iff_not, Decidable.not_not,
    Option.isNone_eq_false_iff] at divided
  obtain ⟨⟨quotes, plain⟩, inside⟩ := divided
  obtain ⟨quote, quoting⟩ := Option.isSome_iff_exists.mp quotes
  have other : '.' ≠ quote := fun same => point (same ▸ quoting)
  obtain ⟨first, rest, chars, parts⟩ := Text.exists_split_of_mem inside
  obtain ⟨piece, pieces, others⟩ := List.exists_cons_of_ne_nil (Text.split_ne_nil (· == '.') rest)
  have firstPlain : isExpression (String.ofList first) = false := by
    simp only [isExpression, chars, decide_eq_false_iff_not, List.mem_append, not_or] at plain
    simpa [isExpression] using plain.1
  have notWild : name ≠ wildcard := by
    rintro rfl
    simp [wildcard] at inside
  have single : (dialect.identifier name).toList =
      quote :: (double quote first ++ '.' :: (double quote rest ++ [quote])) := by
    simp [identifier, notWild, plain, quoteIdentifier, quoting, Text.Quoted.encode, chars,
      Text.Quoted.double_append, double, other]
  have divided : ∃ tail, (dialect.dotted name).toList =
      (dialect.identifier (String.ofList first)).toList ++ '.' :: tail := by
    rw [toList_dotted plain, parts, others, List.map_cons, List.map_cons,
      List.intercalate_cons_cons, List.append_assoc]
    exact ⟨_, rfl⟩
  obtain ⟨tail, divided⟩ := divided
  intro same
  rw [same, single] at divided
  by_cases wild : String.ofList first = wildcard
  · -- The part `*` is not quoted.
    have star : first = ['*'] := by simpa [wildcard] using congrArg String.toList wild
    by_cases starred : quote = '*'
    · simp [identifier, wildcard, star, starred, double] at divided
    · simp [identifier, wildcard, star, starred] at divided
  · have quoted : (dialect.identifier (String.ofList first)).toList =
        quote :: (double quote first ++ [quote]) := by
      simp [identifier, wild, firstPlain, quoteIdentifier, quoting, Text.Quoted.encode]
    have next : '.' = quote ∧ double quote rest ++ [quote] = '.' :: tail := by
      simpa [quoted] using divided
    exact other next.1

end Dialect

/-! ### Tables and their columns -/

namespace Table

/-- What stands before the name by which a statement introduces a table. -/
def lead (dialect : Dialect) (table : Table) : String :=
  match table.aliasName with
  | some _ => dialect.dotted table.fullName ++ " AS "
  | none => ""

/-- The name by which a statement introduces a table. -/
def introduction (dialect : Dialect) (table : Table) : String :=
  match table.aliasName with
  | some aliasName => dialect.identifier aliasName
  | none => dialect.dotted table.fullName

theorem text_eq_lead_append (dialect : Dialect) {table : Table} (named : table.name ≠ "") :
    table.text dialect = .ok (table.lead dialect ++ table.introduction dialect) := by
  cases aliased : table.aliasName <;>
    simp [text, named, lead, introduction, aliased, Dialect.aliasText, String.append_assoc]

theorem dotted_qualifier {table : Table} {dialect : Dialect}
    (whole : table.aliasName.all dialect.writesWhole) :
    dialect.dotted table.qualifier = table.introduction dialect := by
  cases aliased : table.aliasName with
  | none => simp [qualifier, introduction, aliased]
  | some aliasName =>
    simp only [aliased, Option.all_some] at whole
    simp [qualifier, introduction, aliased, Dialect.dotted_eq_identifier whole]

theorem dotted_qualifier_ne {table : Table} {dialect : Dialect}
    (point : dialect.quote ≠ some '.')
    (divided : table.aliasName.all dialect.writesWhole = false) :
    dialect.dotted table.qualifier ≠ table.introduction dialect := by
  cases aliased : table.aliasName with
  | none => simp [aliased] at divided
  | some aliasName =>
    simp only [aliased, Option.all_some] at divided
    simpa [qualifier, introduction, aliased] using Dialect.dotted_ne_identifier point divided

end Table

namespace Column

variable {dialect : Dialect} {table : Table} {column : Column}

theorem text_of_table (owner : column.table = some table) :
    column.text dialect =
      dialect.dotted table.qualifier ++ "." ++ dialect.identifier column.name := by
  simp [text, owner]

/-- A column names its table as the statement introduces it, unless points divide the alias
of the table. -/
theorem text_eq_introduction (named : table.name ≠ "") (owner : column.table = some table) :
    table.text dialect = .ok (table.lead dialect ++ table.introduction dialect) ∧
      (table.aliasName.all dialect.writesWhole →
        column.text dialect =
          table.introduction dialect ++ "." ++ dialect.identifier column.name) ∧
      (dialect.quote ≠ some '.' →
        column.text dialect =
          table.introduction dialect ++ "." ++ dialect.identifier column.name →
        table.aliasName.all dialect.writesWhole) := by
  rw [text_of_table owner]
  refine ⟨table.text_eq_lead_append dialect named, fun whole => ?_, fun point same => ?_⟩
  · rw [table.dotted_qualifier whole]
  · rw [String.append_left_inj, String.append_left_inj] at same
    cases whole : table.aliasName.all dialect.writesWhole with
    | true => rfl
    | false => exact absurd same (table.dotted_qualifier_ne point whole)

/-- A table whose alias has a quote in it. -/
def tickedTable : Table := { name := "user", schema := some "app", aliasName := some "we`ird" }

theorem text_eq_introduction_ticked :
    tickedTable.name ≠ "" ∧ tickedTable.text .mysql = .ok "`app`.`user` AS `we``ird`" ∧
      text .mysql { name := "id", table := tickedTable } = "`we``ird`.`id`" := by
  obtain ⟨introduced, same, -⟩ :=
    @text_eq_introduction .mysql tickedTable { name := "id", table := tickedTable } (by decide) rfl
  refine ⟨by decide, introduced.trans (congrArg Except.ok ?_), (same (by decide)).trans ?_⟩
  · decide +kernel
  · decide +kernel

/-- A table whose alias has a point in it. -/
def pointedTable : Table := { name := "user", aliasName := some "a.b" }

/-- The alias is one identifier where the table is introduced, and two where a column names
the table. -/
theorem text_ne_introduction :
    pointedTable.text .mysql = .ok "`user` AS `a.b`" ∧
      text .mysql { name := "id", table := pointedTable } = "`a`.`b`.`id`" :=
  ⟨rfl, by decide +kernel⟩

end Column

end BoundSql
