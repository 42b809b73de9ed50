import BoundSql.Proofs.Meaning.Reading
/-!
# Reading what is put together

Of several formulas that hold together, those whose parts AND connects stand there
without parentheses.  The reader sees their parts among the other formulas.
-/

namespace BoundSql

open Text (outerWords)

/-- The reader meets all atoms, and no more, where it can go deep enough. -/
theorem Legend.truth?_eq {legend : Legend} {text : String} {value : Bool}
    (nonempty : outerWords text ≠ [])
    (yields : (Reader.terms (Reader.text text.length) (outerWords text)).Yields legend value) :
    legend.truth? text = some value := by
  have read := yields []
  rw [List.append_nil, ← Reader.text_succ nonempty] at read
  simp [truth?, read]

namespace Formula

theorem truth?_connect (truth : Nat → Bool) (conjunction : Conjunction) {parts : List Formula}
    (nonempty : parts ≠ []) (legible : AllLegible parts) :
    (Legend.ofAtoms truth 0 (atomsOf parts)).truth? (conjunction.connect (texts parts)) =
      some (conjunction.combine (values truth 0 parts)) := by
  apply Legend.truth?_eq (outerWords_connect_ne_nil nonempty legible)
  exact yields_connect truth conjunction parts nonempty legible 0 _
    fun text member => length_le_connect conjunction member

/-! ### Formulas without parentheses -/

def isEmpty (formula : Formula) : Bool :=
  formula.parts.isEmpty

theorem atoms_eq (formula : Formula) : formula.atoms = atomsOf formula.parts := by
  cases formula <;> simp [atoms, parts, atomsOf]

theorem value_eq (truth : Nat → Bool) (first : Nat) (formula : Formula) :
    formula.value truth first = formula.conjunction.combine (values truth first formula.parts) := by
  cases formula <;> simp [value, parts, conjunction, values, Conjunction.combine]

theorem allLegible_parts {formula : Formula} (legible : formula.Legible) :
    AllLegible formula.parts := by
  cases formula with
  | clause text negated => exact ⟨legible, trivial⟩
  | group conjunction parts => exact legible.2

theorem parts_ne_nil {formula : Formula} (legible : formula.Legible) : formula.parts ≠ [] := by
  cases formula with
  | clause text negated => simp [parts]
  | group conjunction parts => exact legible.1

theorem legible_of_parts {formula : Formula} (legible : AllLegible formula.parts)
    (shown : !formula.isEmpty) : formula.Legible := by
  cases formula with
  | clause text negated => exact legible.1
  | group conjunction parts => exact ⟨by simpa [isEmpty, Formula.parts] using shown, legible⟩

/-- The reader finds the truth of a formula in its text without parentheses. -/
theorem truth?_bare (truth : Nat → Bool) {formula : Formula} (legible : AllLegible formula.parts) :
    (Legend.ofAtoms truth 0 formula.atoms).truth? formula.bare = some (formula.value truth 0) := by
  rw [atoms_eq, value_eq]
  by_cases nonempty : formula.parts = []
  · simp only [bare, nonempty]
    rfl
  · exact truth?_connect truth _ nonempty legible

theorem isEmpty_bare {formula : Formula} (legible : AllLegible formula.parts) :
    formula.bare.isEmpty = formula.isEmpty :=
  isEmpty_connect formula.conjunction fun part member =>
    text_ne_empty ((allLegible_iff _).mp legible part member)

/-! ### Formulas that hold together -/

/-- What the reader sees of a formula among others that hold together. -/
def factors (formula : Formula) : List Formula :=
  if formula.conjunction = .and then formula.parts else [formula]

theorem connect_factors (formula : Formula) :
    Conjunction.and.connect (texts formula.factors) =
      if formula.conjunction = .and then formula.bare else "(" ++ formula.bare ++ ")" := by
  cases formula with
  | clause text negated => simp [factors, conjunction, bare]
  | group conjunction parts =>
    by_cases connected : conjunction = .and
    · simp [factors, Formula.conjunction, bare, connected]
    · simp [factors, Formula.conjunction, Formula.parts, bare, connected, texts, Formula.text,
        Conjunction.connect]

theorem factors_ne_nil {formula : Formula} (legible : formula.Legible) :
    formula.factors ≠ [] := by
  unfold factors
  split
  · exact parts_ne_nil legible
  · simp

theorem allLegible_factors {formula : Formula} (legible : formula.Legible) :
    AllLegible formula.factors := by
  unfold factors
  split
  · exact allLegible_parts legible
  · exact ⟨legible, trivial⟩

theorem atomsOf_factors (formula : Formula) : atomsOf formula.factors = formula.atoms := by
  unfold factors
  split
  · exact formula.atoms_eq.symm
  · simp [atomsOf]

theorem combine_and (truths : List Bool) : Conjunction.and.combine truths = truths.all id := by
  cases truths with
  | nil => rfl
  | cons first rest => simp [Conjunction.combine_cons, Conjunction.connective, Conjunction.negates]

theorem all_values_factors (truth : Nat → Bool) (first : Nat) (formula : Formula) :
    (values truth first formula.factors).all id = formula.value truth first := by
  unfold factors
  split
  · rename_i connected
    rw [value_eq, connected, combine_and]
  · simp [values]

/-- The atoms of all factors are those of the formulas. -/
theorem atomsOf_flatMap_factors (formulas : List Formula) :
    atomsOf (formulas.flatMap factors) = atomsOf formulas := by
  induction formulas with
  | nil => rfl
  | cons formula rest ih =>
    simp only [atomsOf_eq, List.flatMap_cons, List.flatMap_append] at ih ⊢
    rw [ih, ← atomsOf_eq, atomsOf_factors]

/-- All factors hold together if the formulas do. -/
theorem all_values_flatMap_factors (truth : Nat → Bool) (first : Nat) (formulas : List Formula) :
    (values truth first (formulas.flatMap factors)).all id =
      (values truth first formulas).all id := by
  induction formulas generalizing first with
  | nil => rfl
  | cons formula rest ih =>
    rw [List.flatMap_cons, values_append, List.all_append, all_values_factors, atomsOf_factors, ih]
    simp [values]

/-- What AND connects in two steps it connects in one. -/
theorem connect_flatMap_factors {formulas : List Formula}
    (nonempty : ∀ formula ∈ formulas, formula.factors ≠ []) :
    Conjunction.and.connect (formulas.map fun formula =>
        Conjunction.and.connect (texts formula.factors)) =
      Conjunction.and.connect (texts (formulas.flatMap factors)) := by
  induction formulas with
  | nil => rfl
  | cons formula rest ih =>
    have own := nonempty formula (by simp)
    have ih := ih fun formula member => nonempty formula (by simp [member])
    cases rest with
    | nil => simp [Conjunction.connect]
    | cons next rest =>
      have later : texts ((next :: rest).flatMap factors) ≠ [] := by
        simp [texts_eq, nonempty next]
      have here : texts formula.factors ≠ [] := by
        simp [texts_eq, own]
      rw [List.flatMap_cons, texts_eq, List.map_append, ← texts_eq, ← texts_eq]
      unfold Conjunction.connect at ih ⊢
      rw [String.intercalate_append_of_ne_nil here later, ← ih, List.map_cons,
        String.intercalate_cons_of_ne_nil (by simp)]

/-- Several formulas are written as one of which AND connects the parts. -/
theorem conjoined_several {first second : Formula} {rest : List Formula}
    (legible : ∀ formula ∈ first :: second :: rest, formula.Legible) :
    Binding.conjoined ((first :: second :: rest).map fun formula =>
        (formula.conjunction, formula.bare)) =
      Conjunction.and.connect (texts ((first :: second :: rest).flatMap factors)) := by
  rw [← connect_flatMap_factors fun formula member => factors_ne_nil (legible formula member)]
  simp only [connect_factors]
  simp [Binding.conjoined, Conjunction.connect, Conjunction.keyword, Function.comp_def]

/-- Formulas that say nothing have no atoms, and are true. -/
theorem filter_isEmpty (truth : Nat → Bool) (formulas : List Formula) :
    atomsOf (formulas.filter (!·.isEmpty)) = atomsOf formulas ∧
      ∀ first, (values truth first (formulas.filter (!·.isEmpty))).all id =
        (values truth first formulas).all id := by
  induction formulas with
  | nil => exact ⟨rfl, fun _ => rfl⟩
  | cons formula rest ih =>
    by_cases empty : formula.isEmpty
    · have none : formula.parts = [] := by simpa [isEmpty] using empty
      simp [empty, ih, atomsOf, values, value_eq, atoms_eq, none, Conjunction.combine]
    · simp [empty, ih, atomsOf, values]

/-- What is written for formulas that hold together is true if all of them are. -/
theorem truth?_conjoined (truth : Nat → Bool) {formulas : List Formula}
    (legible : ∀ formula ∈ formulas, AllLegible formula.parts) :
    (Legend.ofAtoms truth 0 (atomsOf formulas)).truth?
        (Binding.conjoined ((formulas.map fun formula =>
          (formula.conjunction, formula.bare)).filter fun (_, text) => !text.isEmpty)) =
      some ((values truth 0 formulas).all id) := by
  have shown : (formulas.map fun formula => (formula.conjunction, formula.bare)).filter
        (fun (_, text) => !text.isEmpty) =
      (formulas.filter (!·.isEmpty)).map fun formula => (formula.conjunction, formula.bare) := by
    rw [List.filter_map]
    congr 1
    apply List.filter_congr
    intro formula member
    simp [isEmpty_bare (legible formula member)]
  have shownLegible : ∀ formula ∈ formulas.filter (!·.isEmpty), formula.Legible := by
    intro formula member
    obtain ⟨among, shown⟩ := List.mem_filter.mp member
    exact legible_of_parts (legible formula among) shown
  obtain ⟨sameAtoms, sameValues⟩ := filter_isEmpty truth formulas
  rw [shown, ← sameAtoms, ← sameValues]
  generalize formulas.filter (!·.isEmpty) = formulas at shownLegible ⊢
  -- one formula alone keeps its own conjunction, several are parts under AND
  match formulas with
  | [] => rfl
  | [formula] =>
    have alone := truth?_bare truth (allLegible_parts (shownLegible formula (by simp)))
    simpa [Binding.conjoined, atomsOf, values] using alone
  | first :: second :: rest =>
    have factorsLegible : AllLegible ((first :: second :: rest).flatMap factors) := by
      simp only [allLegible_iff, List.mem_flatMap]
      rintro part ⟨formula, member, among⟩
      exact (allLegible_iff _).mp (allLegible_factors (shownLegible formula member)) part among
    have nonempty : (first :: second :: rest).flatMap factors ≠ [] := by
      simp [factors_ne_nil (shownLegible first (by simp))]
    rw [conjoined_several shownLegible, ← all_values_flatMap_factors, ← combine_and,
      ← atomsOf_flatMap_factors]
    exact truth?_connect truth .and nonempty factorsLegible

end Formula

end BoundSql
