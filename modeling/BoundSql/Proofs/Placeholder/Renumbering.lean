import BoundSql.Proofs.Placeholder.Numbering
/-!
# Renumbered placeholders

A statement that is compiled on from parameters that are bound already has the text it
has alone, with all numbers of placeholders greater by the number of those parameters.
So the members of a set operation have the texts they have alone, each renumbered by the
number of parameters of the members before it.
-/

namespace BoundSql

/-- The token of the placeholder that is so many places after a given one. -/
def shiftToken (offset : Nat) (given : String) : String :=
  token (offset + Nat.ofDigitChars 10 (given.toList.drop 2) 0)

@[simp] theorem shiftToken_token (offset number : Nat) :
    shiftToken offset (token number) = token (offset + number) := by
  simp [shiftToken, Nat.ofDigitChars_ten_toDigits]

/-- A text with the numbers of its placeholders made greater. -/
def Text.renumber (offset : Nat) (text : String) : String :=
  replacePlaceholders (shiftToken offset) text

/-- Entries of parameters with the numbers of their tokens made greater. -/
def Parameters.renumber (offset : Nat) (entries : List (String × Value)) :
    List (String × Value) :=
  entries.map fun (token, value) => (shiftToken offset token, value)

/-- The texts of compiled statements that follow one another, each numbered on from the
parameters of those before it. -/
def Compiled.continued : (offset : Nat) → List Compiled → List String
  | _, [] => []
  | offset, first :: rest =>
    Text.renumber offset first.sql :: continued (offset + first.parameters.size) rest

theorem Parameters.renumber_number (offset first : Nat) (values : List Value) :
    renumber offset (number first values) = number (offset + first) values := by
  induction values generalizing first with
  | nil => rfl
  | cons value rest ih =>
    have later : renumber offset (number (first + 1) rest) = number (offset + first + 1) rest :=
      ih (first + 1)
    simpa [renumber, number] using later

/-- What is bound after other parameters is what is bound alone, renumbered. -/
theorem Parameters.bindAll_eq_renumber {held : Nat} {parameters : Parameters}
    (next : parameters.next = held + 1) (values : List Value) :
    parameters.bindAll values =
      { next := held + (({} : Parameters).bindAll values).next
        entries := parameters.entries ++
          renumber held (({} : Parameters).bindAll values).entries } := by
  have counted : (parameters.bindAll values).next =
      held + (({} : Parameters).bindAll values).next := by
    rw [next_bindAll, next_bindAll, next, Nat.add_assoc]
  have entered : (parameters.bindAll values).entries = parameters.entries ++
      renumber held (({} : Parameters).bindAll values).entries := by
    rw [entries_bindAll, entries_bindAll, List.nil_append, renumber_number, next]
  rw [← counted, ← entered]

namespace Draft

variable {dialect : Dialect}

/-- To spell values as later placeholders is to start from a greater number. -/
theorem spell_token_add (offset number : Nat) (pieces : List Piece) :
    spell dialect (fun number _ => token (offset + number)) number pieces =
      render dialect (offset + number) pieces := by
  induction pieces generalizing number with
  | nil => rfl
  | cons piece rest ih =>
    have own : piece.spell dialect (fun number _ => token (offset + number)) number =
        piece.render dialect (offset + number) := by
      cases piece <;> rfl
    rw [spell, render, own, ih, Nat.add_assoc]

end Draft

theorem Path.renumber_render {dialect : Dialect} (quote : dialect.quote ≠ some ':')
    {start stop : Place} {pieces : List Piece}
    (path : Path (Piece.IsColonless dialect) start pieces stop) (offset number : Nat) :
    Text.renumber offset (Draft.render dialect number pieces) =
      Draft.render dialect (offset + number) pieces := by
  rw [Text.renumber, path.replacePlaceholders_render quote]
  simp only [shiftToken_token, Draft.spell_token_add]

/-! ### Texts from a number on -/

namespace Draft

/-- The text of a draft, where `number` is that of its first placeholder, if it lacks
nothing. -/
def text (dialect : Dialect) (number : Nat) (draft : Draft) : Except Error String :=
  match draft.failure with
  | none => .ok (render dialect number draft.pieces)
  | some lack => .error (.missingContext lack)

/-- The texts of drafts that follow one another, each numbered on from the one before
it. -/
def texts (dialect : Dialect) : (number : Nat) → List Draft → Except Error (List String)
  | _, [] => return []
  | number, draft :: rest => do
    let text ← draft.text dialect number
    let others ← texts dialect (number + draft.values.length) rest
    return text :: others

variable (dialect : Dialect)

theorem text_ofText (number : Nat) (content : String) :
    (ofText content).text dialect number = pure content := by
  simp [text, ofText, render, pure, Except.pure]

theorem text_append (number : Nat) (first second : Draft) :
    (first ++ second).text dialect number = do
      let before ← first.text dialect number
      let after ← second.text dialect (number + first.values.length)
      return before ++ after := by
  change (first.append second).text dialect number = _
  rcases first with ⟨pieces, _ | lack⟩
  · rcases second with ⟨others, _ | lack⟩
    · simp [text, append, render_append, values, bind, Except.bind, pure, Except.pure]
    · rfl
  · rfl

theorem text_join (separator : String) (number : Nat) (drafts : List Draft) :
    (join separator drafts).text dialect number = do
      return separator.intercalate (← texts dialect number drafts) := by
  induction drafts generalizing number with
  | nil => rfl
  | cons draft rest ih =>
    cases rest with
    | nil => simp [join, texts]
    | cons next rest =>
      have between : (ofText separator).values = [] := by simp [ofText, values]
      rw [join_cons_cons, append_assoc, text_append, text_append, text_ofText, between, ih]
      simp [texts, String.append_assoc]

end Draft

namespace Statement

variable {dialect : Dialect}

theorem compileWith_text (statement : Statement) (parameters : Parameters) :
    (statement.compileWith dialect parameters true).2 =
      statement.draft.text dialect parameters.next := by
  rw [compileWith, outcome_text]
  rfl

/-- The text from any number on is that of the statement alone, renumbered. -/
theorem text_draft (quote : dialect.quote ≠ some ':') {statement : Statement}
    (colonless : ∀ given ∈ statement.supplied, ':' ∉ given.text.toList) (offset : Nat) :
    statement.draft.text dialect (offset + 1) =
      (statement.compile dialect).map fun compiled => Text.renumber offset compiled.sql := by
  rw [compile_eq]
  unfold Draft.text
  cases finished : statement.draft.failure with
  | some lack => rfl
  | none =>
    have path := path_of_colonless quote colonless finished
    simp [Except.map, path.renumber_render quote]

/-- Each member is numbered on from those before it. -/
theorem texts_members (quote : dialect.quote ≠ some ':') {members : List Select}
    (colonless : ∀ given ∈ Select.suppliedAll members, ':' ∉ given.text.toList) (offset : Nat) :
    Draft.texts dialect (offset + 1) (members.map Select.draft) =
      (members.mapM fun member => (select member).compile dialect).map
        (Compiled.continued offset) := by
  induction members generalizing offset with
  | nil => rfl
  | cons member rest ih =>
    simp only [Select.suppliedAll, List.forall_mem_append] at colonless
    have own : member.draft.text dialect (offset + 1) =
        ((select member).compile dialect).map fun compiled => Text.renumber offset compiled.sql :=
      @text_draft dialect quote (.select member) colonless.1 offset
    rw [List.map_cons, Draft.texts, List.mapM_cons, own]
    cases alone : (select member).compile dialect with
    | error error => rfl
    | ok compiled =>
      have size : compiled.parameters.size = member.draft.values.length := by
        obtain ⟨_, _, bound⟩ := compile_eq_ok_iff.mp alone
        simp [bound, Parameters.size, draft]
      have others := ih colonless.2 (offset + compiled.parameters.size)
      rw [size, Nat.add_right_comm] at others
      simp only [Except.map, bind, Except.bind, others]
      cases rest.mapM fun member => (select member).compile dialect <;>
        simp [pure, Except.pure, Compiled.continued, size]

/-- A set operation without a comment is its members with its keyword between them. -/
theorem draft_of_members {statement : Statement} (plain : statement.comment = none)
    (several : statement.members ≠ []) :
    statement.draft =
      .join ("\n" ++ statement.kind.name ++ "\n") (statement.members.map Select.draft) := by
  cases statement with
  | combination statement =>
    have plain : statement.comment = none := plain
    have several : statement.members ≠ [] := several
    simp [draft, Combination.draft, plain, Draft.under, Draft.members, several, members, kind]
  | difference statement =>
    have plain : statement.comment = none := plain
    simp [draft, Difference.draft, plain, Draft.under, Draft.members, members, kind,
      Difference.members]
  | _ => exact absurd rfl several

theorem supplied_of_members {statement : Statement} {given : Supplied}
    (member : given ∈ Select.suppliedAll statement.members) : given ∈ statement.supplied := by
  cases statement with
  | combination statement => exact List.mem_append_left _ member
  | difference statement => exact List.mem_append_left _ member
  | _ => simp [members, Select.suppliedAll] at member

/-- Compiling on from parameters gives what compiling alone gives, renumbered by their
number.  Hence the text of a set operation is the texts of its members, each renumbered
by the number of parameters of those before it. -/
theorem compileWith_continues {statement : Statement} {dialect : Dialect}
    (quote : dialect.quote ≠ some ':')
    (colonless : ∀ given ∈ statement.supplied, ':' ∉ given.text.toList) :
    (∀ (held : Nat) (parameters : Parameters), parameters.next = held + 1 →
      (statement.compileWith dialect parameters true).2 =
          (statement.compile dialect).map (fun compiled => Text.renumber held compiled.sql) ∧
        ∀ compiled, statement.compile dialect = .ok compiled →
          (statement.compileWith dialect parameters true).1 =
            { next := held + compiled.parameters.next
              entries := parameters.entries ++
                Parameters.renumber held compiled.parameters.entries }) ∧
      (statement.comment = none → statement.members ≠ [] →
        (statement.compile dialect).map Compiled.sql =
          (statement.members.mapM fun member => (select member).compile dialect).map fun compiled =>
            ("\n" ++ statement.kind.name ++ "\n").intercalate (Compiled.continued 0 compiled)) := by
  constructor
  · intro held parameters next
    constructor
    · rw [compileWith_text, next, text_draft quote colonless]
    · intro compiled alone
      obtain ⟨_, _, bound⟩ := compile_eq_ok_iff.mp alone
      rw [compileWith, if_pos rfl, outcome_text, bound]
      exact Parameters.bindAll_eq_renumber next _
  · intro plain several
    have colonless : ∀ given ∈ Select.suppliedAll statement.members, ':' ∉ given.text.toList :=
      fun given member => colonless given (supplied_of_members member)
    have sql : (statement.compile dialect).map Compiled.sql = statement.draft.text dialect 1 := by
      rw [compile_eq]
      unfold Draft.text
      cases statement.draft.failure <;> rfl
    rw [sql, draft_of_members plain several, Draft.text_join]
    have texts := texts_members quote colonless 0
    rw [Nat.zero_add] at texts
    rw [texts]
    cases statement.members.mapM fun member => (select member).compile dialect <;> rfl

/-- A set operation of which each member binds values. -/
def halves : Statement :=
  .combination
    { combiner := .unionAll
      members :=
        [{ table := some { name := "a" }
           link := {}
           window := { count := some 5 } },
         { table := some { name := "b" }
           comment := some "rest"
           link := {}
           filter := some
             { bits := [{ subject := { name := "c" }, value := .bool true }] } }] }

theorem compileWith_continues_halves :
    (halves.compileWith .generic (({} : Parameters).bindAll [.null]) true).2 =
        .ok ("SELECT a.* FROM a LIMIT :v2, :v3\nUNION ALL\n" ++
          "-- rest\nSELECT b.* FROM b WHERE (ISNULL(c, 0) = :v4)") ∧
      (halves.compile .generic).map Compiled.sql =
        .ok ("SELECT a.* FROM a LIMIT :v1, :v2\nUNION ALL\n" ++
          "-- rest\nSELECT b.* FROM b WHERE (ISNULL(c, 0) = :v3)") := by
  have continues := @compileWith_continues halves .generic (by decide) (by decide +kernel)
  have later := (continues.1 1 (({} : Parameters).bindAll [.null]) rfl).1
  have texts := continues.2 rfl (by decide)
  exact ⟨later.trans (by decide +kernel), texts.trans (by decide +kernel)⟩

end Statement

end BoundSql
