import BoundSql.Proofs.Meaning.Outline
import BoundSql.Proofs.Meaning.Select
/-!
# Clauses with empty lists

A clause that asks for a place in an empty list is written as false, and one that asks
for no place in it is left out.  The text of a condition, with each clause as one operand,
means what the condition says without the clauses that are left out.  Where they make no
difference it means what the whole condition says.
-/

namespace BoundSql

theorem Binding.bind_eq_of_map_eq {First Other Shared Result : Type} {binding : Binding First}
    {other : Binding Other} {view : First → Shared} {otherView : Other → Shared}
    {next : First → Binding Result} {otherNext : Other → Binding Result}
    (same : view <$> binding = otherView <$> other)
    (continues : ∀ result otherResult, view result = otherView otherResult →
      next result = otherNext otherResult) :
    binding >>= next = other >>= otherNext := by
  funext parameters
  have same := congrFun same parameters
  change EStateM.map view binding parameters = EStateM.map otherView other parameters at same
  change EStateM.bind binding next parameters = EStateM.bind other otherNext parameters
  unfold EStateM.map at same
  unfold EStateM.bind
  cases ran : binding parameters with
  | ok result after =>
    cases otherRan : other parameters with
    | ok otherResult otherAfter =>
      simp only [ran, otherRan, EStateM.Result.ok.injEq] at same
      obtain ⟨equal, rfl⟩ := same
      exact congrFun (continues result otherResult equal) after
    | error error otherAfter => simp [ran, otherRan] at same
  | error error after =>
    cases otherRan : other parameters with
    | ok otherResult otherAfter => simp [ran, otherRan] at same
    | error otherError otherAfter =>
      simp only [ran, otherRan, EStateM.Result.error.injEq] at same
      obtain ⟨rfl, rfl⟩ := same
      rfl

variable (dialect : Dialect)

def MembershipClause.outline (clause : MembershipClause) : Binding Outline := do
  let text ← clause.text? dialect
  return if clause.values.isEmpty then .settled clause.negated else .clause (text.getD "") false

def ExistenceClause.outline (clause : ExistenceClause) : Binding Outline := do
  return .clause ("EXISTS (" ++ (← clause.select.text dialect) ++ ")") clause.negated

mutual

/-- Writes the clauses and subconditions of a condition, and keeps those that are left
out of its text in their places. -/
def Condition.outlines : Condition → Binding (List Outline)
  | { comparisons, ranges, memberships, nullChecks, bits, searches, existences, literals,
      subconditions, .. } => do
    let searches ← searches.mapM (SearchClause.text dialect)
    let memberships ← memberships.mapM (MembershipClause.outline dialect)
    let ranges ← ranges.mapM (RangeClause.text dialect)
    let comparisons ← ComparisonClause.texts dialect comparisons
    let bits ← bits.mapM (BitClause.text dialect)
    let existences ← existences.mapM (ExistenceClause.outline dialect)
    let groups ← Condition.groupOutlines subconditions
    return searches.map (Outline.clause · false) ++ memberships ++
      (ranges ++ comparisons ++ nullChecks.map (NullClause.text dialect) ++ bits).map
        (Outline.clause · false) ++
      existences ++ literals.map (Outline.clause · false) ++ groups

def Condition.groupOutlines : List Condition → Binding (List Outline)
  | [] => return []
  | condition :: rest => do
    let parts ← condition.outlines
    let groups ← Condition.groupOutlines rest
    return .group condition.conjunction parts :: groups

end

def Condition.outline (condition : Condition) : Binding Outline := do
  return .group condition.conjunction (← condition.outlines dialect)

/-! ### What is left out -/

variable {dialect}

theorem Outline.allWritten_append (parts further : List Outline) :
    allWritten (parts ++ further) = allWritten parts ++ allWritten further := by
  simp [allWritten_eq]

theorem Outline.allWritten_clauses (texts : List String) :
    allWritten (texts.map (clause · false)) = texts.map (Formula.clause · false) := by
  induction texts with
  | nil => rfl
  | cons text rest ih => simp [allWritten, written, ih]

theorem MembershipClause.map_outline (clause : MembershipClause) :
    (fun shown => shown.toList.map (Formula.clause · false)) <$> clause.text? dialect =
      Outline.written <$> clause.outline dialect := by
  unfold outline text?
  by_cases empty : clause.values.isEmpty <;> by_cases negated : clause.negated <;>
    simp [empty, negated, Outline.written]

theorem MembershipClause.mapM_outline (clauses : List MembershipClause) :
    (fun shown => shown.reduceOption.map (Formula.clause · false)) <$>
        clauses.mapM (text? dialect) =
      Outline.allWritten <$> clauses.mapM (outline dialect) := by
  induction clauses with
  | nil => rfl
  | cons clause rest ih =>
    simp only [List.mapM_cons, map_bind, map_pure]
    apply Binding.bind_eq_of_map_eq clause.map_outline
    intro shown outline written
    apply Binding.bind_eq_of_map_eq ih
    intro others outlines allWritten
    rw [Outline.allWritten, ← written, ← allWritten]
    cases shown <;> rfl

theorem ExistenceClause.mapM_outline (clauses : List ExistenceClause) :
    clauses.mapM (part dialect) = Outline.allWritten <$> clauses.mapM (outline dialect) := by
  induction clauses with
  | nil => rfl
  | cons clause rest ih =>
    simp [ih, part, outline, Outline.allWritten, Outline.written]

mutual

/-- The parts of a condition are what is written of its outlines. -/
theorem Condition.parts_eq : (condition : Condition) →
    condition.parts dialect = Outline.allWritten <$> condition.outlines dialect
  | { comparisons, ranges, memberships, nullChecks, bits, searches, existences, literals,
      subconditions, .. } => by
    have groups := Condition.groupsOf_eq subconditions
    rw [Condition.parts, Condition.outlines, ExistenceClause.mapM_outline, groups]
    simp only [map_bind, map_pure, bind_map_left]
    refine bind_congr fun searches => ?_
    apply Binding.bind_eq_of_map_eq (MembershipClause.mapM_outline memberships)
    intro shown outlines written
    refine bind_congr fun ranges => bind_congr fun comparisons => bind_congr fun bits => ?_
    refine bind_congr fun existences => bind_congr fun groups => ?_
    simp only [Outline.allWritten_append, Outline.allWritten_clauses, ← written,
      List.map_append, List.append_assoc]

theorem Condition.groupsOf_eq : (conditions : List Condition) →
    Condition.groupsOf dialect conditions =
      Outline.allWritten <$> Condition.groupOutlines dialect conditions
  | [] => rfl
  | condition :: rest => by
    have parts := Condition.parts_eq condition
    have groups := Condition.groupsOf_eq rest
    rw [Condition.groupsOf, Condition.groupOutlines, parts, groups]
    simp only [map_bind, map_pure, bind_map_left]
    refine bind_congr fun parts => bind_congr fun groups => ?_
    rw [Outline.allWritten, Outline.written]
    split <;> rfl

end

/-- A condition is written as the formula that is written of its outline. -/
theorem Condition.formula_eq (condition : Condition) :
    condition.formula dialect =
      (fun parts => .group condition.conjunction (Outline.allWritten parts)) <$>
        condition.outlines dialect := by
  simp [formula, parts_eq]

/-! ### Meaning -/

/-- What is written of an outline is true as far as it is told. -/
theorem Outline.truth?_written (truth : Nat → Bool) (conjunction : Conjunction)
    {parts : List Outline} (legible : Formula.AllLegible (allWritten parts)) :
    ((group conjunction parts).legend truth 0).truth?
        (Formula.group conjunction (allWritten parts)).bare =
      some ((group conjunction parts).value false truth 0) := by
  have atoms : (Formula.group conjunction (allWritten parts)).atoms =
      (legends truth 0 parts).map Prod.fst := by
    rw [Formula.atoms, atoms_allWritten truth 0]
  have fits := Legend.ofAtoms_truthOf (legends truth 0 parts)
  have read := @Formula.truth?_bare (legends truth 0 parts).truthOf
    (.group conjunction (allWritten parts)) legible
  rw [atoms, fits] at read
  rw [legend, read, Formula.value, value, values_allWritten parts fits]

namespace Condition

/-- A condition is written as the formula of its outline, and a reader who is told the truth
of the clauses, and that no column is in an empty list, finds what the condition says without
what is left out.  The reader takes each clause as one operand, whatever its text is: any
operands can stand in the place of the clauses.  They can stand there themselves, if the
condition is readable.  What is found is what the whole condition says, if leaving parts out
does no harm. -/
theorem truth?_outline {condition : Condition}
    (shown : ∀ literal ∈ condition.allLiterals, literal ≠ "") {parameters after : Parameters}
    {text : String} (given : condition.text dialect parameters = .ok text after) :
    ∃ outline, condition.outline dialect parameters = .ok outline after ∧
      outline.formula.bare = text ∧
      (∀ mark : String → String, (∀ clause, Text.isOperand (mark clause)) → ∀ truth,
        ((outline.marked mark).legend truth 0).truth? (outline.marked mark).formula.bare =
          some (outline.value false truth 0)) ∧
      (dialect.QuotesNoParenthesis → condition.IsReadable → ∀ truth,
        (outline.legend truth 0).truth? text = some (outline.value false truth 0)) ∧
      (outline.isSpared → ∀ truth,
        outline.value true truth 0 = outline.value false truth 0) := by
  rw [text_eq_bare shown] at given
  obtain ⟨formula, formed, rfl⟩ := Binding.map_eq_ok given
  have legible : dialect.QuotesNoParenthesis → condition.IsReadable →
      Formula.AllLegible formula.parts :=
    fun sound readable => gives_formula sound readable parameters formula after formed
  rw [formula_eq] at formed
  obtain ⟨parts, outlined, rfl⟩ := Binding.map_eq_ok formed
  refine ⟨.group condition.conjunction parts, ?_, rfl, fun mark operands truth => ?_,
    fun sound readable truth => ?_, fun spared truth => ?_⟩
  · change EStateM.map _ (condition.outlines dialect) parameters = _
    simp only [EStateM.map, outlined]
  · rw [← Outline.value_marked]
    exact Outline.truth?_written truth condition.conjunction
      (Outline.legible_allWritten operands parts)
  · exact Outline.truth?_written truth condition.conjunction (legible sound readable)
  · exact Outline.value_of_isSpared truth 0 _ spared

/-- A choice that is always open, since no column is in an empty list. -/
def openChoice : Condition :=
  { conjunction := .or
    nullChecks := [{ subject := { name := "a" }, negated := false }]
    memberships := [{ subject := { name := "b" }, values := [], negated := true }] }

/-- A condition whose first clause looks like two, since parentheses in its column are not
balanced. -/
def unclosed : Condition :=
  { nullChecks :=
      [{ subject := { name := "a) OR (b" }, negated := false },
        { subject := { name := "c" }, negated := false }] }

/-- Under OR the whole condition can be true and its text false: the clause that is left
out is what makes it true.  And a reader of any text has to be told where its clauses are. -/
theorem truth?_outline_ne :
    (¬ ∀ (dialect : Dialect) (condition : Condition) (parameters after : Parameters)
        (text : String), dialect.QuotesNoParenthesis → condition.IsReadable →
      condition.text dialect parameters = .ok text after →
      ∃ outline, condition.outline dialect parameters = .ok outline after ∧
        ∀ truth, (outline.legend truth 0).truth? text =
          some (outline.value true truth 0)) ∧
    ¬ ∀ (dialect : Dialect) (condition : Condition) (parameters after : Parameters)
        (text : String), (∀ literal ∈ condition.allLiterals, literal ≠ "") →
      condition.text dialect parameters = .ok text after →
      ∃ outline, condition.outline dialect parameters = .ok outline after ∧
        ∀ truth, (outline.legend truth 0).truth? text =
          some (outline.value false truth 0) := by
  constructor
  · intro whole
    obtain ⟨outline, outlined, reads⟩ :=
      whole .generic openChoice {} {} "(a IS NULL)" (by decide) (by decide +kernel) rfl
    obtain rfl : .group .or [.settled true, .clause "(a IS NULL)" false] = outline := by
      cases outlined
      rfl
    exact absurd (reads fun _ => false) (by decide +kernel)
  · intro every
    obtain ⟨outline, outlined, reads⟩ :=
      every .generic unclosed {} {} "(a) OR (b IS NULL) AND (c IS NULL)" (by decide +kernel) rfl
    obtain rfl : .group .and [.clause "(a) OR (b IS NULL)" false,
        .clause "(c IS NULL)" false] = outline := by
      cases outlined
      rfl
    exact absurd (reads fun _ => true) (by decide +kernel)

/-- A condition that loses clauses and a subcondition, none of which matters.  Parentheses
in a column and in a literal clause are not balanced. -/
def lossless : Condition :=
  { nullChecks := [{ subject := { name := "a" }, negated := false }]
    memberships :=
      [{ subject := { name := "b" }, values := [], negated := true },
        { subject := { name := "c) OR (c" }, values := [.integer 1], negated := true }]
    literals := ["g) AND NOT h"]
    subconditions :=
      [{ conjunction := .or
         memberships := [{ subject := { name := "d" }, values := [], negated := true }] },
        { conjunction := .orNot
          nullChecks := [{ subject := { name := "f" }, negated := true }]
          memberships := [{ subject := { name := "e" }, values := [], negated := false }] }] }

theorem truth?_outline_lossless :
    ∃ text after outline, lossless.text .mysql {} = .ok text after ∧
      lossless.outline .mysql {} = .ok outline after ∧ outline.formula.bare = text ∧
      outline.isSpared ∧
      ∀ truth, ((outline.marked fun _ => "clause").legend truth 0).truth?
        (outline.marked fun _ => "clause").formula.bare = some (outline.value true truth 0) := by
  obtain ⟨outline, outlined, written, reads, -, whole⟩ :=
    @truth?_outline .mysql lossless (by decide +kernel) {} _ _ rfl
  have spared : outline.isSpared := by
    cases outlined
    rfl
  refine ⟨_, _, outline, rfl, outlined, written, spared, fun truth => ?_⟩
  rw [whole spared]
  exact reads (fun _ => "clause") (fun _ => by decide) truth

end Condition

end BoundSql
