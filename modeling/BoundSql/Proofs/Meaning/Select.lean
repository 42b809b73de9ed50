import BoundSql.Proofs.Meaning.Condition
/-!
# What conditions mean

The text of a condition, and that of the conditions of a SELECT and all its joins,
mean what the conditions say.
-/

namespace BoundSql

open Text (isBalanced isOperand)

variable {dialect : Dialect}

/-! ### One condition -/

namespace Condition

theorem IsReadable.within {condition : Condition} (readable : condition.IsReadable)
    (sound : dialect.QuotesNoParenthesis) :
    Supplied.Within (Piece.IsBalanced dialect) condition.supplied :=
  Supplied.within_isBalanced sound readable.balanced

theorem IsReadable.shown {condition : Condition} (readable : condition.IsReadable) :
    ∀ literal ∈ condition.allLiterals, literal ≠ "" := by
  rintro literal member rfl
  exact absurd (readable.literals "" member) (by decide)

/-- A condition is written as its formula is where this needs no parentheses. -/
theorem text_eq_bare {condition : Condition}
    (shown : ∀ literal ∈ condition.allLiterals, literal ≠ "") :
    condition.text dialect = Formula.bare <$> condition.formula dialect := by
  rw [text_eq condition shown]
  simp [formula, Formula.bare, Formula.conjunction, Formula.parts]

theorem gives_formula (sound : dialect.QuotesNoParenthesis) {condition : Condition}
    (readable : condition.IsReadable) :
    (condition.formula dialect).Gives fun formula => Formula.AllLegible formula.parts :=
  (gives_parts sound condition (readable.within sound) readable.literals).bind fun _ legible =>
    Binding.gives_pure legible

theorem mapM_text {conditions : List Condition}
    (readable : ∀ condition ∈ conditions, condition.IsReadable) :
    (conditions.mapM fun condition => Prod.mk condition.conjunction <$> condition.text dialect) =
      List.map (fun formula => (formula.conjunction, formula.bare)) <$>
        conditions.mapM (formula dialect) := by
  induction conditions with
  | nil => simp
  | cons condition rest ih =>
    have own : Prod.mk condition.conjunction <$> condition.text dialect =
        (fun formula => (formula.conjunction, formula.bare)) <$> condition.formula dialect := by
      rw [text_eq_bare (readable condition (by simp)).shown]
      simp [formula, Formula.conjunction]
    have others := ih fun condition member => readable condition (by simp [member])
    simp [own, others]

/-- Conditions that hold together are written as their formulas are. -/
theorem allOf_text {conditions : List Condition}
    (readable : ∀ condition ∈ conditions, condition.IsReadable) :
    Binding.allOf (conditions.map fun condition =>
        (condition.conjunction, condition.text dialect)) =
      (fun formulas => Binding.conjoined ((formulas.map fun formula =>
        (formula.conjunction, formula.bare)).filter fun (_, text) => !text.isEmpty)) <$>
        conditions.mapM (formula dialect) := by
  have written := @mapM_text dialect conditions readable
  simp only [Binding.allOf, List.mapM_map, bind_pure_comp, Function.comp_def, written,
    Functor.map_map]

end Condition

/-! ### The conditions of a SELECT -/

namespace Select

theorem joinedContributions_eq (select : Select) :
    select.joinedContributions dialect = select.allJoins.map (contribution dialect) := by
  rw [← ofLayer_joinedLayers, joinedLayers_eq, List.map_map]
  exact List.map_congr_left fun one _ => ofLayer_layer dialect one

/-- The conditions that a SELECT and all its joins contribute, depth first. -/
theorem filterMap_contributions (select : Select)
    {place : Contribution → Option (Conjunction × Binding String)}
    {tree : Select → Option Condition}
    (same : ∀ one : Select, place (one.contribution dialect) =
      Condition.connectedText dialect (tree one)) :
    (select.contribution dialect :: select.joinedContributions dialect).filterMap place =
      (select.gather fun one => (tree one).toList).map fun condition =>
        (condition.conjunction, condition.text dialect) := by
  have flat : select.contribution dialect :: select.joinedContributions dialect =
      select.flattened.map (contribution dialect) := by
    rw [joinedContributions_eq]
    rfl
  rw [flat, gather_eq]
  induction select.flattened with
  | nil => rfl
  | cons one rest ih =>
    cases found : tree one <;> simp [same, found, Condition.connectedText, ih]

end Select

/-! ### Meaning -/

/-- Whether what is written says that some conditions hold: a reader who is told the
truth of each clause finds the conjunction of what the conditions say. -/
def Binding.Conveys (dialect : Dialect) (written : Binding String) (conditions : List Condition) :
    Prop :=
  ∀ parameters text after, written parameters = .ok text after →
    ∃ formulas, conditions.mapM (Condition.formula dialect) parameters = .ok formulas after ∧
      ∀ truth, (Legend.ofAtoms truth 0 (Formula.atomsOf formulas)).truth? text =
        some ((Formula.values truth 0 formulas).all id)

theorem Binding.conveys_allOf (sound : dialect.QuotesNoParenthesis) {conditions : List Condition}
    (readable : ∀ condition ∈ conditions, condition.IsReadable) :
    (allOf (conditions.map fun condition =>
      (condition.conjunction, condition.text dialect))).Conveys dialect conditions := by
  intro parameters text after given
  rw [Condition.allOf_text readable] at given
  obtain ⟨formulas, written, rfl⟩ := map_eq_ok given
  have legible := gives_mapM (fun condition member =>
    Condition.gives_formula sound (readable condition member)) parameters formulas after written
  exact ⟨formulas, written, fun truth => Formula.truth?_conjoined truth legible⟩

/-- What is written for a condition says what the condition does, and what is written
for the conditions of a SELECT and all its joins says that these hold. -/
theorem Condition.meaning_text (sound : dialect.QuotesNoParenthesis) :
    (∀ condition : Condition, condition.IsReadable → ∀ parameters text after,
      condition.text dialect parameters = .ok text after →
        ∃ formula, condition.formula dialect parameters = .ok formula after ∧
          ∀ truth, (Legend.ofAtoms truth 0 formula.atoms).truth? text =
            some (formula.value truth 0)) ∧
    (∀ select : Select, (∀ condition ∈ select.allFilters, condition.IsReadable) →
      (Binding.allOf ((select.contribution dialect :: select.joinedContributions dialect).filterMap
        Contribution.filter)).Conveys dialect select.allFilters) ∧
    (∀ select : Select, (∀ condition ∈ select.allHavings, condition.IsReadable) →
      (Binding.allOf ((select.contribution dialect :: select.joinedContributions dialect).filterMap
        Contribution.having)).Conveys dialect select.allHavings) := by
  refine ⟨fun condition readable parameters text after given => ?_, fun select readable => ?_,
    fun select readable => ?_⟩
  · rw [text_eq_bare readable.shown] at given
    obtain ⟨formula, written, rfl⟩ := Binding.map_eq_ok given
    have legible := gives_formula sound readable parameters formula after written
    exact ⟨formula, written, fun truth => Formula.truth?_bare truth legible⟩
  · have same : ∀ one : Select, (one.contribution dialect).filter =
        connectedText dialect one.filter := by
      rintro ⟨⟩
      rw [Select.contribution]
    rw [select.filterMap_contributions same]
    exact Binding.conveys_allOf sound readable
  · have same : ∀ one : Select, (one.contribution dialect).having =
        connectedText dialect one.having := by
      rintro ⟨⟩
      rw [Select.contribution]
    rw [select.filterMap_contributions same]
    exact Binding.conveys_allOf sound readable

/-- A condition with literals and with subconditions, of which one says nothing. -/
def Condition.mixed : Condition :=
  { conjunction := .orNot
    literals := ["a IN (b or c)", "order = 1"]
    subconditions :=
      [{ conjunction := .or
         nullChecks :=
          [{ subject := { name := "d" }, negated := true },
            { subject := { name := "e" }, negated := false }] },
        {}] }

/-- A SELECT and a join of it, whose conditions are connected in several ways. -/
def Select.divided : Select :=
  { table := some { name := "orders" }
    link := {}
    filter := some .mixed
    joins :=
      [{ table := some { name := "items" }
         link := {}
         filter := some
          { existences :=
              [{ select := { table := some { name := "f" }, link := {} }, negated := true }]
            bits := [{ subject := { name := "g" }, value := .bool true }] }
         having := some { conjunction := .andNot, literals := ["h"] } }] }

theorem Condition.meaning_text_divided :
    (∃ text after formula,
      Condition.mixed.text .mysql {} = .ok text after ∧
        Condition.mixed.formula .mysql {} = .ok formula after ∧
        ∀ truth, (Legend.ofAtoms truth 0 formula.atoms).truth? text =
          some (formula.value truth 0)) ∧
    (∃ text after formulas,
      Binding.allOf ((Select.divided.contribution .mysql ::
        Select.divided.joinedContributions .mysql).filterMap Contribution.filter) {} =
          .ok text after ∧
        Select.divided.allFilters.mapM (formula .mysql) {} = .ok formulas after ∧
        ∀ truth, (Legend.ofAtoms truth 0 (Formula.atomsOf formulas)).truth? text =
          some ((Formula.values truth 0 formulas).all id)) ∧
    (∃ text after formulas,
      Binding.allOf ((Select.divided.contribution .mysql ::
        Select.divided.joinedContributions .mysql).filterMap Contribution.having) {} =
          .ok text after ∧
        Select.divided.allHavings.mapM (formula .mysql) {} = .ok formulas after ∧
        ∀ truth, (Legend.ofAtoms truth 0 (Formula.atomsOf formulas)).truth? text =
          some ((Formula.values truth 0 formulas).all id)) := by
  obtain ⟨single, filters, havings⟩ := @meaning_text .mysql (by decide)
  obtain ⟨formula, written, meaning⟩ := single .mixed (by decide +kernel) {} _ _ rfl
  obtain ⟨filterFormulas, writtenFilters, filtered⟩ :=
    filters .divided (by decide +kernel) {} _ _ rfl
  obtain ⟨havingFormulas, writtenHavings, having⟩ :=
    havings .divided (by decide +kernel) {} _ _ rfl
  exact ⟨⟨_, _, formula, rfl, written, meaning⟩,
    ⟨_, _, filterFormulas, rfl, writtenFilters, filtered⟩,
    ⟨_, _, havingFormulas, rfl, writtenHavings, having⟩⟩

end BoundSql
