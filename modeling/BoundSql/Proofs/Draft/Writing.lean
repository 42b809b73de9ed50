import BoundSql.Binding.Basic
import BoundSql.Draft.Select
/-!
# Writing a draft

A draft is written piece by piece: quoted, numbered from the next placeholder, and
with its values bound on the way.  Each way of composing drafts is written as the
same way of composing texts.

Texts are left out when they are empty, and drafts when they are silent.  The two
agree for a `Sturdy` draft, which does not consist of empty names alone.
-/

namespace BoundSql

/-- Whether a piece has text in every dialect. -/
def Piece.isSolid : Piece → Bool
  | .text content => !content.isEmpty
  | .name identifier => !identifier.isEmpty
  | .unnamedColumn => false
  | .value _ | .remark _ => true

theorem Piece.render_ne_empty {piece : Piece} (solid : piece.isSolid) (dialect : Dialect)
    (number : Nat) : piece.render dialect number ≠ "" := by
  cases piece with
  | name identifier =>
    cases quoting : dialect.quote <;>
      simp_all [render, isSolid, Dialect.quoteIdentifier, Text.Quoted.encode]
  | _ => simp_all [render, isSolid, token]

theorem Piece.eq_of_isSilent {piece : Piece} (silent : piece.isSilent) :
    piece = .text "" := by
  cases piece <;> simp_all [isSilent]

namespace Draft

/-- Writes a draft: binds its values, and gives its text if it lacks nothing. -/
def write (dialect : Dialect) (draft : Draft) : Binding String := fun parameters =>
  match draft.failure with
  | none => .ok (render dialect parameters.next draft.pieces) (parameters.bindAll draft.values)
  | some lack => .error (.missingContext lack) (parameters.bindAll draft.values)

/-- A draft with something to see: a piece that has text in every dialect, or a
failure that leaves no text. -/
def Visible (draft : Draft) : Prop :=
  draft.failure ≠ none ∨ ∃ piece ∈ draft.pieces, piece.isSolid

/-- A draft whose text is empty only if there is nothing to write. -/
def Sturdy (draft : Draft) : Prop :=
  draft.isSilent ∨ draft.Visible

theorem values_mk (pieces : List Piece) (failure : Option Lack) :
    (Draft.mk pieces failure).values = pieces.flatMap Piece.values := rfl

theorem mapM_map_result {First Second Third : Type} (change : Second → Third)
    (step : First → Binding Second) (items : List First) :
    (items.mapM fun item => change <$> step item) = List.map change <$> items.mapM step := by
  induction items with
  | nil => simp
  | cons item rest ih => simp [ih]

/-! ### Composing -/

section Composing

variable (dialect : Dialect)

@[simp] theorem write_empty : write dialect {} = pure "" := rfl

@[simp] theorem write_fail (lack : Lack) :
    write dialect (.fail lack) = Binding.lack lack := rfl

@[simp] theorem write_ofText (content : String) :
    write dialect (.ofText content) = pure content := by
  funext parameters
  simp [write, ofText, values, render, Piece.render, Piece.values, pure, EStateM.pure]

@[simp] theorem write_ofValue (value : Value) :
    write dialect (.ofValue value) = Binding.value value := by
  funext parameters
  have bound : Binding.value value parameters =
      .ok (token parameters.next) (parameters.bind value).1 := rfl
  simp [write, ofValue, values, render, Piece.render, Piece.values, bound]

@[simp] theorem write_append (first second : Draft) :
    write dialect (first ++ second) = do
      let before ← write dialect first
      let after ← write dialect second
      return before ++ after := by
  funext parameters
  change write dialect (first.append second) parameters = _
  rcases first with ⟨pieces, _ | lack⟩
  · rcases second with ⟨others, _ | lack⟩ <;>
      simp [write, append, bind, EStateM.bind, pure, EStateM.pure, values_mk,
        render_append, Parameters.bindAll_append]
  · rfl

@[simp] theorem write_parenthesized (draft : Draft) :
    write dialect draft.parenthesized = do
      return "(" ++ (← write dialect draft) ++ ")" := by
  simp [parenthesized]

@[simp] theorem write_join (separator : String) (drafts : List Draft) :
    write dialect (join separator drafts) = do
      let texts ← drafts.mapM (write dialect)
      return separator.intercalate texts := by
  induction drafts with
  | nil => simp [join]
  | cons draft rest ih =>
    cases rest with
    | nil => simp [join]
    | cons next rest =>
      rw [join_cons_cons]
      simp [ih, String.append_assoc]

@[simp] theorem mapM_write_ofText (texts : List String) :
    texts.mapM (write dialect ∘ ofText) = pure texts := by
  simpa [Function.comp_def] using List.mapM_pure (m := Binding) (l := texts) (f := id)

@[simp] theorem write_under (comment : Option String) (draft : Draft) :
    write dialect (draft.under comment) =
      Binding.under comment (write dialect draft) := by
  cases comment with
  | none => rfl
  | some comment =>
    have remark : write dialect { pieces := [.remark comment] } =
        pure ("-- " ++ comment ++ "\n") := by
      funext parameters
      simp [write, render, Piece.render, Piece.values, values, pure, EStateM.pure]
    simp [under, Binding.under, remark]

/-- A list after a lead, where the items bind nothing. -/
theorem write_listing {Item : Type} (lead : String) {draft : Item → Draft} {text : Item → String}
    (written : ∀ item, write dialect (draft item) = pure (text item)) (items : List Item) :
    write dialect (if items.isEmpty then {} else ofText lead ++ join ", " (items.map draft)) =
      pure (if items.isEmpty then "" else lead ++ ", ".intercalate (items.map text)) := by
  split
  · rfl
  · simp [Function.comp_def, written]

@[simp] theorem write_sequence (drafts : List Draft) :
    write dialect (sequence drafts) = do
      let texts ← drafts.mapM (write dialect)
      return String.join texts := by
  induction drafts with
  | nil => rfl
  | cons draft rest ih =>
    have split : sequence (draft :: rest) = draft ++ sequence rest := rfl
    simp [split, ih, String.join_cons]

end Composing

/-! ### What can be seen -/

@[simp] theorem visible_ofText (content : String) :
    (ofText content).Visible ↔ content ≠ "" := by
  simp [Visible, ofText, Piece.isSolid]

@[simp] theorem visible_ofValue (value : Value) : (ofValue value).Visible := by
  simp [Visible, ofValue, Piece.isSolid]

@[simp] theorem visible_append (first second : Draft) :
    (first ++ second).Visible ↔ first.Visible ∨ second.Visible := by
  change (first.append second).Visible ↔ _
  rcases first with ⟨pieces, _ | lack⟩
  · simp only [append, Visible, List.mem_append]
    grind
  · simp [append, Visible]

theorem sturdy_ofText (content : String) : (ofText content).Sturdy := by
  by_cases empty : content = ""
  · exact .inl (by simp [isSilent, ofText, Piece.isSilent, empty])
  · exact .inr (by simp [empty])

@[simp] theorem visible_parenthesized (draft : Draft) : draft.parenthesized.Visible := by
  simp [parenthesized]

@[simp] theorem visible_exists (select : Draft) : select.exists.Visible := by
  simp [Draft.exists]

@[simp] theorem visible_negatedIf (negated : Bool) (draft : Draft) :
    (draft.negatedIf negated).Visible ↔ negated ∨ draft.Visible := by
  cases negated <;> simp [negatedIf]

/-- Several drafts have a separator between them, so that they can be seen. -/
theorem visible_join {separator : String} (nonempty : separator ≠ "") (first second : Draft)
    (rest : List Draft) : (join separator (first :: second :: rest)).Visible := by
  rw [join_cons_cons]
  simp [nonempty]

theorem sturdy_join {separator : String} (nonempty : separator ≠ "") {drafts : List Draft}
    (sturdy : ∀ draft ∈ drafts, draft.Sturdy) : (join separator drafts).Sturdy := by
  match drafts with
  | [] => exact .inl rfl
  | [draft] => exact sturdy draft (by simp)
  | first :: second :: rest => exact .inr (visible_join nonempty first second rest)

theorem sturdy_allOf {conditions : List (Conjunction × Draft)}
    (sturdy : ∀ condition ∈ conditions, condition.2.Sturdy) : (allOf conditions).Sturdy := by
  have shownSturdy : ∀ condition ∈ conditions.filter fun condition => !condition.2.isSilent,
      condition.2.Sturdy :=
    fun condition member => sturdy condition (List.mem_filter.mp member).1
  simp only [allOf]
  generalize (conditions.filter fun condition => !condition.2.isSilent) = shown at shownSturdy
  match shown with
  | [] => exact .inl rfl
  | [condition] => exact shownSturdy condition (by simp)
  | first :: second :: rest => exact .inr (visible_join (by simp) _ _ _)

theorem isSilent_eq_false_of_visible {draft : Draft} (visible : draft.Visible) :
    draft.isSilent = false := by
  obtain failed | ⟨piece, member, solid⟩ := visible
  · simp [isSilent, Option.isNone_iff_eq_none, failed]
  · have : piece.isSilent = false := by
      cases piece <;> simp_all [Piece.isSolid, Piece.isSilent]
    simp only [isSilent, Bool.and_eq_false_iff, List.all_eq_false]
    exact .inr ⟨piece, member, by simp [this]⟩

theorem render_ne_empty (dialect : Dialect) {number : Nat} {pieces : List Piece}
    (solid : ∃ piece ∈ pieces, piece.isSolid) : render dialect number pieces ≠ "" := by
  obtain ⟨piece, member, solid⟩ := solid
  obtain ⟨before, after, rfl⟩ := List.append_of_mem member
  simp [render_append, render, Piece.render_ne_empty solid]

/-- The text of what can be seen is not empty. -/
theorem write_bind_congr (dialect : Dialect) {Result : Type} {draft : Draft}
    (visible : draft.Visible) {first second : String → Binding Result}
    (agree : ∀ text, text ≠ "" → first text = second text) :
    write dialect draft >>= first = write dialect draft >>= second := by
  funext parameters
  obtain ⟨pieces, _ | lack⟩ := draft
  · have solid : ∃ piece ∈ pieces, piece.isSolid := by simpa [Visible] using visible
    simp [bind, EStateM.bind, write, agree _ (render_ne_empty dialect solid)]
  · rfl

theorem render_of_isSilent (dialect : Dialect) {pieces : List Piece}
    (silent : ∀ piece ∈ pieces, piece.isSilent) (number : Nat) :
    render dialect number pieces = "" ∧ pieces.flatMap Piece.values = [] := by
  induction pieces with
  | nil => exact ⟨rfl, rfl⟩
  | cons piece rest ih =>
    obtain rfl := Piece.eq_of_isSilent (silent piece (by simp))
    obtain ⟨text, values⟩ := ih fun piece member => silent piece (by simp [member])
    exact ⟨by simp [render, Piece.render, Piece.values, text], by simp [Piece.values, values]⟩

theorem write_of_isSilent (dialect : Dialect) {draft : Draft} (silent : draft.isSilent) :
    write dialect draft = pure "" := by
  obtain ⟨pieces, failure⟩ := draft
  simp only [isSilent, Option.isNone_iff_eq_none, Bool.and_eq_true, List.all_eq_true] at silent
  obtain ⟨rfl, silent⟩ := silent
  funext parameters
  obtain ⟨text, values⟩ := render_of_isSilent dialect silent parameters.next
  simp [write, values_mk, text, values, pure, EStateM.pure]

/-! ### Leaving out what is empty -/

theorem write_ledBy (dialect : Dialect) (lead : String) {draft : Draft} (sturdy : draft.Sturdy) :
    write dialect (ledBy lead draft) = do
      return Binding.ledBy lead (← write dialect draft) := by
  obtain silent | visible := sturdy
  · simp [ledBy, silent, write_of_isSilent dialect silent, Binding.ledBy]
  · have shown := isSilent_eq_false_of_visible visible
    simp only [ledBy, shown, Bool.false_eq_true, if_false, write_append, write_ofText, pure_bind]
    apply write_bind_congr dialect visible
    intro text nonempty
    simp [Binding.ledBy, nonempty]

/-- A condition between parentheses is left out if its text is empty. -/
theorem mapM_write_grouped (dialect : Dialect) {draft : Draft} (sturdy : draft.Sturdy) :
    (grouped draft).mapM (write dialect) = do
      let text ← write dialect draft
      return if text.isEmpty then [] else ["(" ++ text ++ ")"] := by
  obtain silent | visible := sturdy
  · simp [grouped, silent, write_of_isSilent dialect silent]
  · have shown := isSilent_eq_false_of_visible visible
    simp only [grouped, shown, Bool.false_eq_true, if_false, List.mapM_cons, List.mapM_nil,
      write_parenthesized, pure_bind, bind_assoc]
    apply write_bind_congr dialect visible
    intro text nonempty
    simp [nonempty]

/-- The conditions of which there is something to see are those with a text. -/
private theorem mapM_write_filter (dialect : Dialect) {conditions : List (Conjunction × Draft)}
    (sturdy : ∀ condition ∈ conditions, condition.2.Sturdy) :
    (conditions.filter fun condition => !condition.2.isSilent).mapM
        (fun condition => Prod.mk condition.1 <$> write dialect condition.2) =
      (·.filter fun condition => !condition.2.isEmpty) <$>
        conditions.mapM fun condition => Prod.mk condition.1 <$> write dialect condition.2 := by
  induction conditions with
  | nil => simp
  | cons condition rest ih =>
    obtain ⟨conjunction, draft⟩ := condition
    have ih := ih fun condition member => sturdy condition (by simp [member])
    obtain silent | visible := sturdy (conjunction, draft) (by simp)
    · have silent : draft.isSilent = true := silent
      simp [silent, write_of_isSilent dialect silent, ih]
    · have shown : draft.isSilent = false := isSilent_eq_false_of_visible visible
      simp only [List.filter_cons, shown, Bool.not_false, if_true, List.mapM_cons, ih,
        bind_map_left, map_bind, bind_pure_comp, Functor.map_map]
      apply write_bind_congr dialect visible
      intro text nonempty
      simp [nonempty]

/-- Writing conditions and then putting some between parentheses is writing them
between parentheses. -/
private theorem write_join_and (dialect : Dialect) (conditions : List (Conjunction × Draft)) :
    write dialect
        (join " AND " (conditions.map fun (conjunction, draft) =>
          if conjunction = .and then draft else draft.parenthesized)) =
      (fun texts : List (Conjunction × String) =>
        " AND ".intercalate (texts.map fun (conjunction, text) =>
          if conjunction = .and then text else "(" ++ text ++ ")")) <$>
        conditions.mapM fun condition => Prod.mk condition.1 <$> write dialect condition.2 := by
  have single : ∀ condition : Conjunction × Draft,
      write dialect (if condition.1 = .and then condition.2 else condition.2.parenthesized) =
        (fun (condition : Conjunction × String) =>
          if condition.1 = .and then condition.2 else "(" ++ condition.2 ++ ")") <$>
          (Prod.mk condition.1 <$> write dialect condition.2) := by
    intro condition
    split <;> simp [*]
  simp only [write_join, List.mapM_map, Function.comp_def, single, bind_pure_comp]
  rw [mapM_map_result, Functor.map_map]

theorem write_allOf (dialect : Dialect) {conditions : List (Conjunction × Draft)}
    (sturdy : ∀ condition ∈ conditions, condition.2.Sturdy) :
    write dialect (allOf conditions) =
      Binding.allOf (conditions.map fun (conjunction, draft) =>
        (conjunction, write dialect draft)) := by
  have filtered := mapM_write_filter dialect sturdy
  have written : write dialect (allOf conditions) = Binding.conjoined <$>
      (conditions.filter fun condition => !condition.2.isSilent).mapM
        fun condition => Prod.mk condition.1 <$> write dialect condition.2 := by
    simp only [allOf]
    generalize (conditions.filter fun condition => !condition.2.isSilent) = shown
    match shown with
    | [] => simp [Binding.conjoined]
    | [condition] => simp [Binding.conjoined]
    | first :: second :: rest =>
      rw [write_join_and]
      simp [Binding.conjoined]
  rw [written, filtered]
  simp [Binding.allOf, Function.comp_def]

/-- A list of columns is empty if it has none, and also if its only column has an
empty name which the dialect does not quote. -/
theorem write_columnList (dialect : Dialect) {columns : List Draft}
    (sturdy : ∀ column ∈ columns, column.Sturdy ∨ column = { pieces := [.name ""] }) :
    write dialect (columnList columns) = do
      let texts ← columns.mapM (write dialect)
      return Binding.ledBy " " (", ".intercalate texts) := by
  by_cases nameless : columns = [{ pieces := [.name ""] }]
  · subst nameless
    have unnamed : write dialect { pieces := [.unnamedColumn] } =
        pure (Binding.ledBy " " (dialect.quoteIdentifier "")) := by
      funext parameters
      cases quoting : dialect.quote <;>
        simp [write, render, Piece.render, Piece.values, values, pure, EStateM.pure, quoting,
          Dialect.quoteIdentifier, Binding.ledBy, Text.Quoted.encode]
    have name : write dialect { pieces := [.name ""] } =
        pure (dialect.quoteIdentifier "") := by
      funext parameters
      simp [write, render, Piece.render, Piece.values, values, pure, EStateM.pure]
    simp [columnList, unnamed, name]
  · have list : (join ", " columns).Sturdy := by
      rcases columns with _ | ⟨column, _ | ⟨second, rest⟩⟩
      · exact .inl rfl
      · obtain sturdy | rfl := sturdy column (by simp)
        · exact sturdy
        · simp at nameless
      · exact .inr (visible_join (by simp) column second rest)
    simp [columnList_of_ne nameless, write_ledBy dialect " " list]

end Draft

end BoundSql
