import BoundSql.Proofs.Draft.Statements
import BoundSql.Proofs.Meaning.Conjoined
import BoundSql.Proofs.Path.Balance
import BoundSql.Proofs.Path.Statement
import Mathlib.Data.List.ReduceOption
/-!
# Reading conditions

The text of a condition is that of a formula, whose clauses are those of the
condition in the order in which they are written.
-/

namespace BoundSql

open Text (isBalanced isOperand outerWords)

variable (dialect : Dialect)

/-! ### What is written -/

/-- Writes a clause, of which NOT is no part. -/
def ExistenceClause.part (clause : ExistenceClause) : Binding Formula := do
  return .clause ("EXISTS (" ++ (← clause.select.text dialect) ++ ")") clause.negated

mutual

/-- Writes the clauses of a condition as the parts of a formula. -/
def Condition.parts : Condition → Binding (List Formula)
  | { comparisons, ranges, memberships, nullChecks, bits, searches, existences, literals,
      subconditions, .. } => do
    let searches ← searches.mapM (SearchClause.text dialect)
    let memberships ← memberships.mapM (MembershipClause.text? dialect)
    let ranges ← ranges.mapM (RangeClause.text dialect)
    let comparisons ← ComparisonClause.texts dialect comparisons
    let bits ← bits.mapM (BitClause.text dialect)
    let existences ← existences.mapM (ExistenceClause.part dialect)
    let groups ← Condition.groupsOf subconditions
    return (searches ++ memberships.reduceOption ++ ranges ++ comparisons ++
        nullChecks.map (NullClause.text dialect) ++ bits).map (Formula.clause · false) ++
      existences ++ literals.map (Formula.clause · false) ++ groups

/-- Writes those subconditions that have parts. -/
def Condition.groupsOf : List Condition → Binding (List Formula)
  | [] => return []
  | condition :: rest => do
    let parts ← condition.parts
    let groups ← Condition.groupsOf rest
    return if parts.isEmpty then groups else .group condition.conjunction parts :: groups

end

/-- Writes a condition as a formula. -/
def Condition.formula (condition : Condition) : Binding Formula := do
  return .group condition.conjunction (← condition.parts dialect)

namespace Condition

mutual

/-- The literal clauses of a condition and of all its subconditions. -/
def allLiterals : Condition → List String
  | { literals, subconditions, .. } => literals ++ literalsOf subconditions

def literalsOf : List Condition → List String
  | [] => []
  | condition :: rest => condition.allLiterals ++ literalsOf rest

end

theorem mem_allLiterals {condition : Condition} {literal : String}
    (member : literal ∈ condition.literals) : literal ∈ condition.allLiterals := by
  cases condition
  exact List.mem_append_left _ member

/-- Whether a reader can follow the text of a condition: parentheses in supplied texts
are balanced, and literal clauses are operands. -/
structure IsReadable (condition : Condition) : Prop where
  balanced : ∀ given ∈ condition.supplied, isBalanced given.text
  literals : ∀ literal ∈ condition.allLiterals, isOperand literal

instance (condition : Condition) : Decidable condition.IsReadable :=
  decidable_of_iff ((∀ given ∈ condition.supplied, isBalanced given.text) ∧
      ∀ literal ∈ condition.allLiterals, isOperand literal)
    ⟨fun ⟨balanced, literals⟩ => ⟨balanced, literals⟩,
      fun ⟨balanced, literals⟩ => ⟨balanced, literals⟩⟩

end Condition

/-! ### Operands -/

variable {dialect}

/-- What is put between parentheses is an operand. -/
theorem Draft.Level.gives_isOperand (sound : dialect.QuotesNoParenthesis) {body : Draft}
    (level : body.Level (Piece.IsBalanced dialect) true) :
    (body.parenthesized.write dialect).Gives fun text => isOperand text := by
  rw [write_parenthesized]
  exact (level.gives_isBalanced sound).bind fun text balanced =>
    Binding.gives_pure (Text.isOperand_parenthesized balanced)

theorem MembershipClause.gives_isOperand (sound : dialect.QuotesNoParenthesis)
    {clause : MembershipClause}
    (within : Supplied.Within (Piece.IsBalanced dialect) clause.subject.referred) :
    (clause.text? dialect).Gives fun shown => ∀ text ∈ shown, isOperand text := by
  rw [text?_eq]
  split
  · exact Binding.gives_pure (by simp)
  · rename_i shown
    apply Binding.Gives.map
    simp only [Option.mem_def, Option.some.injEq, forall_eq']
    unfold draft
    split
    · rename_i empty
      have positive : clause.negated = false := by simpa [isVoid, empty] using shown
      simp only [positive, Bool.false_eq_true, if_false, Draft.write_ofText]
      exact Binding.gives_pure (by decide)
    · exact (level_body within).gives_isOperand sound

theorem ComparisonClause.gives_isOperand (sound : dialect.QuotesNoParenthesis) :
    (clauses : List ComparisonClause) →
    Supplied.Within (Piece.IsBalanced dialect) (ComparisonClause.supplied clauses) →
    ∀ draft ∈ drafts clauses, (draft.write dialect).Gives fun text => isOperand text
  | [], _ => by simp [drafts]
  | { subject, relation, target } :: rest, within => by
    simp only [ComparisonClause.supplied, Supplied.within_append] at within
    obtain ⟨⟨subjects, targets⟩, others⟩ := within
    simp only [drafts, List.forall_mem_cons]
    refine ⟨?_, gives_isOperand sound rest others⟩
    exact (Draft.Level.related subjects (Operand.level_draft target targets)
      relation).gives_isOperand sound

theorem ExistenceClause.gives_legible (sound : dialect.QuotesNoParenthesis)
    {clause : ExistenceClause}
    (within : Supplied.Within (Piece.IsBalanced dialect) clause.select.supplied) :
    (clause.part dialect).Gives Formula.Legible := by
  unfold part
  rw [← Select.write_draft]
  exact ((Select.level_draft within).gives_isBalanced sound).bind fun text balanced =>
    Binding.gives_pure (Text.isOperand_exists balanced)

/-! ### Parts -/

/-- What holds of the clauses of a condition as they are written, and of its groups, holds of
all its parts. -/
theorem Condition.gives_all_parts {shown : String → Prop} {holds : Formula → Prop}
    (clauses : ∀ text, shown text → holds (.clause text false)) (condition : Condition)
    (searched : ∀ clause ∈ condition.searches, (clause.text dialect).Gives shown)
    (membered : ∀ clause ∈ condition.memberships,
      (clause.text? dialect).Gives fun written => ∀ text ∈ written, shown text)
    (ranged : ∀ clause ∈ condition.ranges, (clause.text dialect).Gives shown)
    (compared : ∀ draft ∈ ComparisonClause.drafts condition.comparisons,
      (draft.write dialect).Gives shown)
    (checked : ∀ clause ∈ condition.nullChecks, shown (clause.text dialect))
    (bitten : ∀ clause ∈ condition.bits, (clause.text dialect).Gives shown)
    (existing : ∀ clause ∈ condition.existences, (clause.part dialect).Gives holds)
    (literal : ∀ literal ∈ condition.literals, shown literal)
    (nested : (Condition.groupsOf dialect condition.subconditions).Gives
      fun groups => ∀ group ∈ groups, holds group) :
    (condition.parts dialect).Gives fun parts => ∀ part ∈ parts, holds part := by
  obtain ⟨table, conjunction, comparisons, ranges, memberships, nullChecks, bits, searches,
    existences, literals, subconditions⟩ := condition
  have comparisonTexts : (ComparisonClause.texts dialect comparisons).Gives
      fun texts => ∀ text ∈ texts, shown text := by
    rw [← ComparisonClause.mapM_write_drafts]
    exact Binding.gives_mapM compared
  rw [Condition.parts]
  exact (Binding.gives_mapM searched).bind fun searches searched =>
    (Binding.gives_mapM membered).bind fun memberships membered =>
    (Binding.gives_mapM ranged).bind fun ranges ranged =>
    comparisonTexts.bind fun comparisons compared =>
    (Binding.gives_mapM bitten).bind fun bits bitten =>
    (Binding.gives_mapM existing).bind fun existences existing =>
    nested.bind fun groups nested => by
      apply Binding.gives_pure
      have membered : ∀ text ∈ memberships.reduceOption, shown text :=
        fun text written => membered _ (List.reduceOption_mem_iff.mp written) text rfl
      have own : ∀ text ∈ searches ++ memberships.reduceOption ++ ranges ++ comparisons ++
          nullChecks.map (NullClause.text dialect) ++ bits, shown text := by
        simp only [List.forall_mem_append, List.forall_mem_map]
        exact ⟨⟨⟨⟨⟨searched, membered⟩, ranged⟩, compared⟩, checked⟩, bitten⟩
      rw [List.forall_mem_append, List.forall_mem_append, List.forall_mem_append,
        List.forall_mem_map, List.forall_mem_map]
      exact ⟨⟨⟨fun text member => clauses text (own text member), existing⟩,
        fun text member => clauses text (literal text member)⟩, nested⟩

mutual

/-- The parts of a readable condition are legible. -/
theorem Condition.gives_parts (sound : dialect.QuotesNoParenthesis) : (condition : Condition) →
    Supplied.Within (Piece.IsBalanced dialect) condition.supplied →
    (∀ literal ∈ condition.allLiterals, isOperand literal) →
    (condition.parts dialect).Gives Formula.AllLegible
  | { comparisons, ranges, memberships, nullChecks, bits, searches, existences, literals,
      subconditions, .. }, within, operands => by
    simp only [Condition.supplied, Supplied.within_append, Supplied.within_flatMap,
      ExistenceClause.supplied_eq] at within
    obtain ⟨⟨⟨⟨⟨⟨⟨⟨searched, membered⟩, ranged⟩, compared⟩, checked⟩, bitten⟩, existing⟩, _⟩,
      nested⟩ := within
    simp only [Condition.allLiterals, List.forall_mem_append] at operands
    have groups := Condition.gives_groupsOf sound subconditions nested operands.2
    have every : Formula.AllLegible = fun parts => ∀ part ∈ parts, part.Legible :=
      funext fun parts => propext (Formula.allLegible_iff parts)
    rw [every] at groups ⊢
    refine Condition.gives_all_parts (fun _ => id) _ (fun clause member => ?_)
      (fun clause member => MembershipClause.gives_isOperand sound (membered clause member))
      (fun clause member => ?_) (ComparisonClause.gives_isOperand sound comparisons compared)
      (fun clause member => ?_) (fun clause member => ?_)
      (fun clause member => ExistenceClause.gives_legible sound (existing clause member))
      operands.1 groups
    · rw [← SearchClause.write_draft]
      exact (clause.level_body (searched clause member)).gives_isOperand sound
    · rw [← RangeClause.write_draft]
      exact (clause.level_body (ranged clause member)).gives_isOperand sound
    · have gives := (clause.level_body (checked clause member)).gives_isOperand sound
      rw [← NullClause.draft, NullClause.write_draft] at gives
      exact gives {} _ {} rfl
    · rw [← BitClause.write_draft]
      exact (clause.level_body (bitten clause member)).gives_isOperand sound

theorem Condition.gives_groupsOf (sound : dialect.QuotesNoParenthesis) :
    (conditions : List Condition) →
    Supplied.Within (Piece.IsBalanced dialect) (Condition.suppliedAll conditions) →
    (∀ literal ∈ Condition.literalsOf conditions, isOperand literal) →
    (Condition.groupsOf dialect conditions).Gives Formula.AllLegible
  | [], _, _ => Binding.gives_pure trivial
  | condition :: rest, within, operands => by
    simp only [Condition.suppliedAll, Supplied.within_append] at within
    simp only [Condition.literalsOf, List.forall_mem_append] at operands
    rw [Condition.groupsOf]
    exact (Condition.gives_parts sound condition within.1 operands.1).bind fun parts legible =>
      (Condition.gives_groupsOf sound rest within.2 operands.2).bind fun groups others => by
        apply Binding.gives_pure
        split
        · exact others
        · rename_i nonempty
          exact ⟨⟨by simpa using nonempty, legible⟩, others⟩

end

/-! ### Texts -/

theorem Draft.Visible.gives_ne_empty {draft : Draft} (visible : draft.Visible) :
    (draft.write dialect).Gives (· ≠ "") := by
  intro parameters text after given
  obtain ⟨pieces, _ | lack⟩ := draft
  · have solid : ∃ piece ∈ pieces, piece.isSolid := by simpa [Visible] using visible
    cases given
    exact render_ne_empty dialect solid
  · cases given

/-- Groups have text, since they stand between parentheses. -/
theorem Condition.groupsOf_gives_ne_empty (conditions : List Condition) :
    (Condition.groupsOf dialect conditions).Gives
      fun groups => ∀ group ∈ groups, group.text ≠ "" := by
  induction conditions with
  | nil => exact Binding.gives_pure (by simp)
  | cons condition rest ih =>
    rw [Condition.groupsOf]
    refine (Binding.gives_true _).bind fun parts _ =>
      ih.bind fun groups shown => Binding.gives_pure ?_
    split
    · exact shown
    · simpa [Formula.text] using shown

/-- Parts have text, if the literal clauses do. -/
theorem Condition.parts_gives_ne_empty (condition : Condition)
    (literals : ∀ literal ∈ condition.literals, literal ≠ "") :
    (condition.parts dialect).Gives fun parts => ∀ part ∈ parts, part.text ≠ "" := by
  refine Condition.gives_all_parts (fun text shown => by simpa [Formula.text, notIf] using shown)
    condition (fun clause _ => ?_) (fun clause _ => ?_) (fun clause _ => ?_) (fun draft member => ?_)
    (fun clause _ => ?_) (fun clause _ => ?_) (fun clause _ => ?_) literals
    (Condition.groupsOf_gives_ne_empty condition.subconditions)
  · rw [← SearchClause.write_draft]
    exact Draft.Visible.gives_ne_empty (by simp [SearchClause.draft])
  · rw [MembershipClause.text?_eq]
    split
    · exact Binding.gives_pure (by simp)
    · rename_i shown
      apply Binding.Gives.map
      simpa using (MembershipClause.visible_draft (by simpa using shown)).gives_ne_empty
  · rw [← RangeClause.write_draft]
    exact Draft.Visible.gives_ne_empty (by simp [RangeClause.draft])
  · exact (ComparisonClause.visible_drafts _ draft member).gives_ne_empty
  · simp [NullClause.text]
  · rw [← BitClause.write_draft]
    exact Draft.Visible.gives_ne_empty (by simp [BitClause.draft])
  · exact (Binding.gives_true _).bind fun text _ =>
      Binding.gives_pure (by simp [Formula.text])

theorem ExistenceClause.texts_eq (clauses : List ExistenceClause) :
    texts dialect clauses = Formula.texts <$> clauses.mapM (part dialect) := by
  induction clauses with
  | nil => simp [texts, Formula.texts]
  | cons clause rest ih =>
    obtain ⟨select, negated⟩ := clause
    simp [texts, ih, part, Formula.texts, Formula.text, Select.text, String.append_assoc,
      -bind_pure_comp]

mutual

/-- A condition is written as its parts are, with its conjunction between them, if its literal
clauses have text. -/
theorem Condition.text_eq : (condition : Condition) →
    (∀ literal ∈ condition.allLiterals, literal ≠ "") →
    condition.text dialect =
      (fun parts => condition.conjunction.connect (Formula.texts parts)) <$>
        condition.parts dialect
  | { conjunction, comparisons, ranges, memberships, nullChecks, bits, searches, existences,
      literals, subconditions, .. }, shown => by
    simp only [Condition.allLiterals, List.forall_mem_append] at shown
    have groups := Condition.groups_eq subconditions shown.2
    simp [Condition.text, Condition.parts, ExistenceClause.texts_eq, groups, Formula.texts_eq,
      Conjunction.connect, Function.comp_def, Formula.text, notIf, -bind_pure_comp]

theorem Condition.groups_eq : (conditions : List Condition) →
    (∀ literal ∈ Condition.literalsOf conditions, literal ≠ "") →
    Condition.groups dialect conditions =
      Formula.texts <$> Condition.groupsOf dialect conditions
  | [], _ => by simp [Condition.groups, Condition.groupsOf, Formula.texts]
  | condition :: rest, shown => by
    simp only [Condition.literalsOf, List.forall_mem_append] at shown
    have first := Condition.text_eq condition shown.1
    have others := Condition.groups_eq rest shown.2
    simp only [Condition.groups, Condition.groupsOf, first, others, bind_map_left, map_bind]
    apply (Condition.parts_gives_ne_empty condition fun literal member =>
      shown.1 literal (mem_allLiterals member)).bind_congr
    intro parts heard
    rw [Formula.isEmpty_connect condition.conjunction heard]
    cases parts <;> simp [Formula.texts, Formula.text]

end

end BoundSql
