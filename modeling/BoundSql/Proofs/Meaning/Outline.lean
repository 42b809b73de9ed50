import BoundSql.Proofs.Meaning.Conjoined
/-!
# Outlines

The outline of a condition has all its clauses and subconditions, also those that are
not written.  A column is never in an empty list, so a clause with an empty list is
settled: it is not written where it is true, and stands as `(1 = 0)` where it is false.

Leaving a true part out is harmless under AND.  Under OR NOT it is harmless except for
the first part, which is not reversed, and under OR and AND NOT it is in general not.

What an outline says does not depend on the texts of its clauses.  A reader finds it where
any operands stand in their place.
-/

namespace BoundSql

/-- A condition with all its parts in their order. -/
inductive Outline where
  | clause (text : String) (negated : Bool)
  /-- A clause with an empty list. -/
  | settled (truth : Bool)
  | group (conjunction : Conjunction) (parts : List Outline)

namespace Outline

mutual

/-- Whether an outline has no clause at any depth, or none that is written. -/
def isVoid (whole : Bool) : Outline → Bool
  | clause _ _ => false
  | settled truth => !whole && truth
  | group _ parts => areVoid whole parts

def areVoid (whole : Bool) : List Outline → Bool
  | [] => true
  | part :: rest => part.isVoid whole && areVoid whole rest

end

mutual

/-- How many clauses are not settled. -/
def size : Outline → Nat
  | clause _ _ => 1
  | settled _ => 0
  | group _ parts => sizes parts

def sizes : List Outline → Nat
  | [] => 0
  | part :: rest => part.size + sizes rest

end

mutual

/-- The truth of the whole outline, or of what is written of it.  Parts that have
nothing to say are passed over.  The clauses that are not settled are numbered from
`first` on, and `truth` has that of each. -/
def value (whole : Bool) (truth : Nat → Bool) (first : Nat) : Outline → Bool
  | clause _ negated => negated ^^ truth first
  | settled truth => truth
  | group conjunction parts => conjunction.combine (values whole truth first parts)

def values (whole : Bool) (truth : Nat → Bool) (first : Nat) : List Outline → List Bool
  | [] => []
  | part :: rest =>
    let others := values whole truth (first + part.size) rest
    if part.isVoid whole then others else part.value whole truth first :: others

end

mutual

/-- The written clauses with their truths. -/
def legend (truth : Nat → Bool) (first : Nat) : Outline → Legend
  | clause text _ => [(text, truth first)]
  | settled truth => if truth then [] else [("(1 = 0)", false)]
  | group _ parts => legends truth first parts

def legends (truth : Nat → Bool) (first : Nat) : List Outline → Legend
  | [] => []
  | part :: rest => part.legend truth first ++ legends truth (first + part.size) rest

end

mutual

/-- The formula that is written, if any is. -/
def written : Outline → List Formula
  | clause text negated => [.clause text negated]
  | settled truth => if truth then [] else [.clause "(1 = 0)" false]
  | group conjunction parts =>
    let formulas := allWritten parts
    if formulas.isEmpty then [] else [.group conjunction formulas]

def allWritten : List Outline → List Formula
  | [] => []
  | part :: rest => part.written ++ allWritten rest

end

theorem allWritten_eq (parts : List Outline) : allWritten parts = parts.flatMap written := by
  induction parts with
  | nil => rfl
  | cons part rest ih => rw [allWritten, ih, List.flatMap_cons]

/-! ### Parts that are left out -/

mutual

/-- Nothing of an outline is written exactly if it has no formula. -/
theorem isEmpty_written : (outline : Outline) →
    outline.written.isEmpty = outline.isVoid false
  | clause _ _ => rfl
  | settled truth => by cases truth <;> rfl
  | group conjunction parts => by
    rw [isVoid, ← isEmpty_allWritten parts, written]
    cases (allWritten parts).isEmpty <;> rfl

theorem isEmpty_allWritten : (parts : List Outline) →
    (allWritten parts).isEmpty = areVoid false parts
  | [] => rfl
  | part :: rest => by
    rw [allWritten, areVoid, ← isEmpty_written part, ← isEmpty_allWritten rest]
    cases part.written <;> rfl

end

mutual

/-- Where there is no clause, nothing is written. -/
theorem isVoid_false_of_true : (outline : Outline) → outline.isVoid true → outline.isVoid false
  | clause _ _, void => by simp [isVoid] at void
  | settled _, void => by simp [isVoid] at void
  | group _ parts, void => areVoid_false_of_true parts void

theorem areVoid_false_of_true : (parts : List Outline) →
    areVoid true parts → areVoid false parts
  | [], _ => rfl
  | part :: rest, void => by
    simp only [areVoid, Bool.and_eq_true] at void ⊢
    exact ⟨isVoid_false_of_true part void.1, areVoid_false_of_true rest void.2⟩

end

theorem values_of_areVoid (truth : Nat → Bool) (first : Nat) {parts : List Outline}
    (void : areVoid false parts) : values false truth first parts = [] := by
  induction parts generalizing first with
  | nil => rfl
  | cons part rest ih =>
    simp only [areVoid, Bool.and_eq_true] at void
    rw [values, if_pos void.1, ih _ void.2]

/-- What is not written counts as true. -/
theorem value_of_isVoid (truth : Nat → Bool) (first : Nat) {outline : Outline}
    (void : outline.isVoid false) : outline.value false truth first = true := by
  cases outline with
  | clause text negated => simp [isVoid] at void
  | settled truth => simpa [isVoid, value] using void
  | group conjunction parts =>
    rw [value, values_of_areVoid truth first void]
    rfl

end Outline

/-- Whether true parts can be left out under a conjunction.  They are marked among all
parts. -/
def Conjunction.canOmit : Conjunction → List Bool → Bool
  | .and, _ => true
  | .or, omitted => omitted.all not || omitted.all id
  | .andNot, omitted => omitted.all not || omitted == [true]
  | .orNot, omitted => !omitted.headD false || omitted.all id

namespace Conjunction

section

variable {parts : List (Bool × Bool)}

theorem combine_omit_of_none (conjunction : Conjunction)
    (none : (parts.map Prod.fst).all not) :
    conjunction.combine (parts.map Prod.snd) =
      conjunction.combine ((parts.filter (!·.1)).map Prod.snd) := by
  have all : parts.filter (!·.1) = parts :=
    List.filter_eq_self.mpr (by simpa using none)
  rw [all]

/-- Nothing is left, and all that was there is true. -/
theorem combine_omit_of_all {conjunction : Conjunction} (lenient : conjunction ≠ .andNot)
    (omitted : ∀ part ∈ parts, part.1 → part.2) (all : (parts.map Prod.fst).all id) :
    conjunction.combine (parts.map Prod.snd) =
      conjunction.combine ((parts.filter (!·.1)).map Prod.snd) := by
  have marked : ∀ part ∈ parts, part.1 = true := by simpa using all
  have nothing : parts.filter (!·.1) = [] :=
    List.filter_eq_nil_iff.mpr fun part mem => by simp [marked part mem]
  have true : ∀ part ∈ parts, part.2 = true := fun part mem => omitted part mem (marked part mem)
  rw [nothing]
  cases parts with
  | nil => rfl
  | cons first rest =>
    have head : first.2 = Bool.true := true first (by simp)
    have tail : ∀ part ∈ rest, part.2 = Bool.true := fun part mem => true part (by simp [mem])
    rw [List.map_cons, combine_cons, head]
    cases conjunction with
    | and => simpa [connective, negates, combine] using tail
    | andNot => exact absurd rfl lenient
    | or => simp [connective, combine]
    | orNot => simp [connective, combine]

theorem all_omit (omitted : ∀ part ∈ parts, part.1 → part.2) :
    (parts.map Prod.snd).all id = ((parts.filter (!·.1)).map Prod.snd).all id := by
  induction parts with
  | nil => rfl
  | cons part rest ih =>
    have ih := ih fun part mem => omitted part (by simp [mem])
    obtain ⟨mark, truth⟩ := part
    cases mark with
    | false => simpa using congrArg (truth && ·) ih
    | true =>
      obtain rfl : truth = true := omitted (true, truth) (by simp) rfl
      simpa using ih

/-- Of parts that are reversed, those that were true make no difference to OR. -/
theorem any_not_omit (omitted : ∀ part ∈ parts, part.1 → part.2) :
    (parts.map Prod.snd).any not = ((parts.filter (!·.1)).map Prod.snd).any not := by
  induction parts with
  | nil => rfl
  | cons part rest ih =>
    have ih := ih fun part mem => omitted part (by simp [mem])
    obtain ⟨mark, truth⟩ := part
    cases mark with
    | false => simpa using congrArg (!truth || ·) ih
    | true =>
      obtain rfl : truth = true := omitted (true, truth) (by simp) rfl
      simpa using ih

/-- True parts that can be left out make no difference. -/
theorem combine_omit {conjunction : Conjunction} (omitted : ∀ part ∈ parts, part.1 → part.2)
    (can : conjunction.canOmit (parts.map Prod.fst)) :
    conjunction.combine (parts.map Prod.snd) =
      conjunction.combine ((parts.filter (!·.1)).map Prod.snd) := by
  cases conjunction with
  | and => rw [Formula.combine_and, Formula.combine_and, all_omit omitted]
  | or =>
    rcases Bool.or_eq_true .. ▸ can with none | all
    · exact combine_omit_of_none .or none
    · exact combine_omit_of_all (by decide) omitted all
  | andNot =>
    rcases Bool.or_eq_true .. ▸ can with none | single
    · exact combine_omit_of_none .andNot none
    · obtain ⟨part, rfl, mark⟩ : ∃ part, parts = [part] ∧ part.1 = true := by
        simpa using single
      have truth : part.2 = true := omitted part (by simp) mark
      simp [mark, truth, combine]
  | orNot =>
    rcases Bool.or_eq_true .. ▸ can with kept | all
    · cases parts with
      | nil => rfl
      | cons first rest =>
        have head : first.1 = false := by simpa using kept
        have tail := any_not_omit fun part mem => omitted part (List.mem_cons_of_mem first mem)
        simpa [combine_cons, connective, negates, head, List.any_map, Function.comp_def]
          using congrArg (first.2 || ·) tail
    · exact combine_omit_of_all (by decide) omitted all

end

end Conjunction

namespace Outline

mutual

/-- Whether leaving out what is not written does no harm, at any depth. -/
def isSpared : Outline → Bool
  | clause _ _ => true
  | settled _ => true
  | group conjunction parts =>
    areSpared parts &&
      conjunction.canOmit ((parts.filter (!·.isVoid true)).map (isVoid false))

def areSpared : List Outline → Bool
  | [] => true
  | part :: rest => part.isSpared && areSpared rest

end

mutual

/-- What is written of a spared outline says as much as the whole. -/
theorem value_of_isSpared (truth : Nat → Bool) (first : Nat) : (outline : Outline) →
    outline.isSpared → outline.value true truth first = outline.value false truth first
  | clause _ _, _ => rfl
  | settled _, _ => rfl
  | group conjunction parts, spared => by
    simp only [isSpared, Bool.and_eq_true] at spared
    obtain ⟨spared, can⟩ := spared
    obtain ⟨marked, marks, whole, shown, omitted⟩ := values_of_areSpared truth first parts spared
    rw [value, value, whole, shown]
    exact Conjunction.combine_omit omitted (marks ▸ can)

/-- The parts that have something to say, each with its truth, marked where they are
not written. -/
theorem values_of_areSpared (truth : Nat → Bool) (first : Nat) : (parts : List Outline) →
    areSpared parts → ∃ marked : List (Bool × Bool),
      marked.map Prod.fst = (parts.filter (!·.isVoid true)).map (isVoid false) ∧
      values true truth first parts = marked.map Prod.snd ∧
      values false truth first parts = (marked.filter (!·.1)).map Prod.snd ∧
      ∀ part ∈ marked, part.1 → part.2
  | [], _ => ⟨[], rfl, rfl, rfl, by simp⟩
  | part :: rest, spared => by
    simp only [areSpared, Bool.and_eq_true] at spared
    obtain ⟨own, others⟩ := spared
    have same := value_of_isSpared truth first part own
    obtain ⟨marked, marks, whole, shown, omitted⟩ :=
      values_of_areSpared truth (first + part.size) rest others
    by_cases blank : part.isVoid true
    · have silent := isVoid_false_of_true part blank
      refine ⟨marked, ?_, ?_, ?_, omitted⟩
      · simpa [blank] using marks
      · simpa [values, blank] using whole
      · simpa [values, silent] using shown
    · refine ⟨(part.isVoid false, part.value true truth first) :: marked, ?_, ?_, ?_, ?_⟩
      · simp [blank, marks]
      · simp [values, blank, whole]
      · by_cases silent : part.isVoid false <;> simp [values, silent, same, shown]
      · rw [List.forall_mem_cons]
        refine ⟨fun silent => ?_, omitted⟩
        rw [same]
        exact value_of_isVoid truth first silent

end

/-! ### What is written -/

mutual

theorem atoms_written (truth : Nat → Bool) (first : Nat) : (outline : Outline) →
    Formula.atomsOf outline.written = (outline.legend truth first).map Prod.fst
  | clause _ _ => rfl
  | settled truth => by cases truth <;> rfl
  | group conjunction parts => by
    have atoms := atoms_allWritten truth first parts
    rw [legend, written, ← atoms]
    by_cases empty : (allWritten parts).isEmpty
    · simp [List.isEmpty_iff.mp empty, Formula.atomsOf]
    · simp [empty, Formula.atomsOf, Formula.atoms]

theorem atoms_allWritten (truth : Nat → Bool) (first : Nat) : (parts : List Outline) →
    Formula.atomsOf (allWritten parts) = (legends truth first parts).map Prod.fst
  | [] => rfl
  | part :: rest => by
    rw [allWritten, legends, List.map_append, ← atoms_written truth first part,
      ← atoms_allWritten truth (first + part.size) rest]
    simp [Formula.atomsOf_eq]

end

end Outline

/-- A truth for each number that a legend tells. -/
def Legend.truthOf (legend : Legend) (number : Nat) : Bool :=
  (legend[number]?.map Prod.snd).getD true

theorem Legend.ofAtoms_truthOf (legend : Legend) :
    ofAtoms legend.truthOf 0 (legend.map Prod.fst) = legend := by
  apply List.ext_getElem
  · simp [ofAtoms]
  · intro number inside told
    simp [ofAtoms, truthOf, told]

/-- Truths that fit a legend fit each half of it. -/
theorem Legend.ofAtoms_split {truth : Nat → Bool} {first : Nat} {before after : Legend}
    (fits : ofAtoms truth first ((before ++ after).map Prod.fst) = before ++ after) :
    ofAtoms truth first (before.map Prod.fst) = before ∧
      ofAtoms truth (first + before.length) (after.map Prod.fst) = after := by
  rw [List.map_append, ofAtoms_append, List.length_map] at fits
  exact List.append_inj fits (by simp [ofAtoms])

namespace Outline

mutual

/-- If truths fit the legend of an outline, then they give its formula the truth of what
is written of it. -/
theorem values_written {told truth : Nat → Bool} {start first : Nat} : (outline : Outline) →
    Legend.ofAtoms told start ((outline.legend truth first).map Prod.fst) =
      outline.legend truth first →
    Formula.values told start outline.written =
      if outline.isVoid false then [] else [outline.value false truth first]
  | clause text negated, fits => by
    have fits : told start = truth first := by simpa [legend, Legend.ofAtoms] using fits
    simp [written, isVoid, value, Formula.values, Formula.value, fits]
  | settled true, _ => rfl
  | settled false, fits => by
    have fits : told start = false := by simpa [legend, Legend.ofAtoms] using fits
    simp [written, isVoid, value, Formula.values, Formula.value, fits]
  | group conjunction parts, fits => by
    have values := values_allWritten parts fits
    rw [written, isVoid, value, ← isEmpty_allWritten, ← values]
    split
    · rfl
    · rfl

theorem values_allWritten {told truth : Nat → Bool} {start first : Nat} :
    (parts : List Outline) →
    Legend.ofAtoms told start ((legends truth first parts).map Prod.fst) =
      legends truth first parts →
    Formula.values told start (allWritten parts) = values false truth first parts
  | [], _ => rfl
  | part :: rest, fits => by
    obtain ⟨own, others⟩ := Legend.ofAtoms_split fits
    have length : (Formula.atomsOf part.written).length = (part.legend truth first).length := by
      rw [atoms_written truth first part, List.length_map]
    rw [allWritten, Formula.values_append, values_written part own, length,
      values_allWritten rest others, values]
    split <;> rfl

end

end Outline

/-! ### Operands in the place of clauses -/

namespace Outline

/-- The formula that is written of an outline, where nothing else stands beside it. -/
def formula : Outline → Formula
  | group conjunction parts => .group conjunction (allWritten parts)
  | outline => .group .and outline.written

mutual

/-- The outline with another text for each clause that is not settled. -/
def marked (mark : String → String) : Outline → Outline
  | clause text negated => clause (mark text) negated
  | settled truth => settled truth
  | group conjunction parts => group conjunction (allMarked mark parts)

def allMarked (mark : String → String) : List Outline → List Outline
  | [] => []
  | part :: rest => part.marked mark :: allMarked mark rest

end

variable {mark : String → String}

mutual

theorem size_marked : (outline : Outline) → (outline.marked mark).size = outline.size
  | clause _ _ => rfl
  | settled _ => rfl
  | group _ parts => sizes_allMarked parts

theorem sizes_allMarked : (parts : List Outline) → sizes (allMarked mark parts) = sizes parts
  | [] => rfl
  | part :: rest => by
    rw [allMarked, sizes, sizes, size_marked part, sizes_allMarked rest]

end

mutual

theorem isVoid_marked (whole : Bool) : (outline : Outline) →
    (outline.marked mark).isVoid whole = outline.isVoid whole
  | clause _ _ => rfl
  | settled _ => rfl
  | group _ parts => areVoid_allMarked whole parts

theorem areVoid_allMarked (whole : Bool) : (parts : List Outline) →
    areVoid whole (allMarked mark parts) = areVoid whole parts
  | [] => rfl
  | part :: rest => by
    rw [allMarked, areVoid, areVoid, isVoid_marked whole part, areVoid_allMarked whole rest]

end

mutual

/-- What an outline says does not depend on the texts of its clauses. -/
theorem value_marked (whole : Bool) (truth : Nat → Bool) (first : Nat) : (outline : Outline) →
    (outline.marked mark).value whole truth first = outline.value whole truth first
  | clause _ _ => rfl
  | settled _ => rfl
  | group conjunction parts =>
    congrArg conjunction.combine (values_allMarked whole truth first parts)

theorem values_allMarked (whole : Bool) (truth : Nat → Bool) (first : Nat) :
    (parts : List Outline) →
    values whole truth first (allMarked mark parts) = values whole truth first parts
  | [] => rfl
  | part :: rest => by
    rw [allMarked, values, values, isVoid_marked, size_marked, value_marked whole truth first part,
      values_allMarked whole truth (first + part.size) rest]

end

mutual

/-- Where operands stand in the place of clauses, all that is written is legible. -/
theorem legible_written (operands : ∀ text, Text.isOperand (mark text)) : (outline : Outline) →
    Formula.AllLegible (outline.marked mark).written
  | clause text _ => ⟨operands text, trivial⟩
  | settled true => trivial
  | settled false => ⟨show Text.isOperand "(1 = 0)" by decide, trivial⟩
  | group conjunction parts => by
    have legible := legible_allWritten operands parts
    rw [marked, written]
    split
    · trivial
    · next shown => exact ⟨⟨by simpa using shown, legible⟩, trivial⟩

theorem legible_allWritten (operands : ∀ text, Text.isOperand (mark text)) :
    (parts : List Outline) → Formula.AllLegible (allWritten (allMarked mark parts))
  | [] => trivial
  | part :: rest => by
    have own := legible_written operands part
    have others := legible_allWritten operands rest
    rw [Formula.allLegible_iff] at own others ⊢
    rw [allMarked, allWritten, List.forall_mem_append]
    exact ⟨own, others⟩

end

end Outline

end BoundSql
