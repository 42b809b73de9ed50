import BoundSql.Binding.Basic
import BoundSql.Proofs.Meaning.Reader
/-!
# Formulas

A condition as it is written: clauses, and conditions between parentheses.  Its
clauses are the atoms whose truth decides over that of the whole.
-/

namespace BoundSql

open Text (Word outerWords isBalanced)

/-! ### Conjunctions -/

namespace Conjunction

/-- What a conjunction says of what is before it and what is after it. -/
def apply : Conjunction → Bool → Bool → Bool
  | .and, before, after => before && after
  | .or, before, after => before || after
  | .andNot, before, after => before && !after
  | .orNot, before, after => before || !after

/-- The first truth as it is, and each later one put after all before it.  Nothing at
all is true. -/
def combine (conjunction : Conjunction) : List Bool → Bool
  | [] => true
  | first :: rest => rest.foldl conjunction.apply first

def connect (conjunction : Conjunction) (texts : List String) : String :=
  (" " ++ conjunction.keyword ++ " ").intercalate texts

/-- The word that connects, before which there is no NOT. -/
def connective : Conjunction → Word
  | .and | .andNot => .and
  | .or | .orNot => .or

/-- Whether a conjunction says the opposite of what is after it. -/
def negates : Conjunction → Bool
  | .and | .or => false
  | .andNot | .orNot => true

/-- All truths after the first are reversed, if the conjunction does that, before all
or any of them are asked for. -/
theorem combine_cons (conjunction : Conjunction) (first : Bool) (rest : List Bool) :
    conjunction.combine (first :: rest) =
      let truths := first :: rest.map (conjunction.negates ^^ ·)
      if conjunction.connective = .and then truths.all id else truths.any id := by
  have fold : ∀ first, rest.foldl conjunction.apply first =
      if conjunction.connective = .and then first && (rest.map (conjunction.negates ^^ ·)).all id
      else first || (rest.map (conjunction.negates ^^ ·)).any id := by
    induction rest with
    | nil => simp
    | cons second rest ih =>
      intro first
      rw [List.foldl_cons, ih]
      cases conjunction <;> simp [apply, connective, negates, Bool.and_assoc, Bool.or_assoc]
  simpa [combine] using fold first

end Conjunction

def Text.negation (negated : Bool) : List Word :=
  if negated then [.not] else []

def Conjunction.words (conjunction : Conjunction) : List Word :=
  conjunction.connective :: Text.negation conjunction.negates

/-- Whether a text is balanced and has words outside parentheses, none of which
connects others. -/
def Text.isOperand (text : String) : Bool :=
  isBalanced text && !(outerWords text).isEmpty &&
    (outerWords text).all fun word => !word.connects

/-! ### Formulas -/

/-- A condition as it is written. -/
inductive Formula where
  | clause (text : String) (negated : Bool)
  | group (conjunction : Conjunction) (parts : List Formula)

namespace Formula

mutual

def text : Formula → String
  | clause text negated => notIf negated ++ text
  | group conjunction parts => "(" ++ conjunction.connect (texts parts) ++ ")"

def texts : List Formula → List String
  | [] => []
  | part :: rest => part.text :: texts rest

end

mutual

/-- The texts of the clauses, from left to right. -/
def atoms : Formula → List String
  | clause text _ => [text]
  | group _ parts => atomsOf parts

def atomsOf : List Formula → List String
  | [] => []
  | part :: rest => part.atoms ++ atomsOf rest

end

mutual

/-- The truth of a formula, where `truth` has that of each atom and `first` is the
number of its first atom. -/
def value (truth : Nat → Bool) (first : Nat) : Formula → Bool
  | clause _ negated => negated ^^ truth first
  | group conjunction parts => conjunction.combine (values truth first parts)

def values (truth : Nat → Bool) (first : Nat) : List Formula → List Bool
  | [] => []
  | part :: rest => part.value truth first :: values truth (first + part.atoms.length) rest

end

def conjunction : Formula → Conjunction
  | clause _ _ => .and
  | group conjunction _ => conjunction

/-- What stands between the parentheses of a formula.  A clause is its own single
part. -/
def parts : Formula → List Formula
  | clause text negated => [clause text negated]
  | group _ parts => parts

/-- The text of a formula where no parentheses are needed. -/
def bare (formula : Formula) : String :=
  formula.conjunction.connect (texts formula.parts)

mutual

/-- Whether a reader finds all clauses in the text of a formula: each is an operand,
and there is something between any parentheses. -/
def Legible : Formula → Prop
  | clause text _ => Text.isOperand text
  | group _ parts => parts ≠ [] ∧ AllLegible parts

def AllLegible : List Formula → Prop
  | [] => True
  | part :: rest => part.Legible ∧ AllLegible rest

end

end Formula

/-- The legend of atoms, where `first` is the number of the first of them. -/
def Legend.ofAtoms (truth : Nat → Bool) (first : Nat) (atoms : List String) : Legend :=
  (atoms.zipIdx first).map fun (atom, number) => (atom, truth number)

theorem Legend.ofAtoms_append (truth : Nat → Bool) (first : Nat) (atoms further : List String) :
    ofAtoms truth first (atoms ++ further) =
      ofAtoms truth first atoms ++ ofAtoms truth (first + atoms.length) further := by
  simp [ofAtoms, List.zipIdx_append]

theorem Legend.mem_ofAtoms {truth : Nat → Bool} {first : Nat} {atoms : List String}
    {entry : String × Bool} (member : entry ∈ ofAtoms truth first atoms) : entry.1 ∈ atoms := by
  obtain ⟨⟨atom, number⟩, numbered, rfl⟩ := List.mem_map.mp member
  exact List.fst_mem_of_mem_zipIdx numbered

namespace Formula

theorem texts_eq (parts : List Formula) : texts parts = parts.map text := by
  induction parts with
  | nil => rfl
  | cons part rest ih => simp [texts, ih]

theorem atomsOf_eq (parts : List Formula) : atomsOf parts = parts.flatMap atoms := by
  induction parts with
  | nil => rfl
  | cons part rest ih => simp [atomsOf, ih]

theorem allLegible_iff (parts : List Formula) :
    AllLegible parts ↔ ∀ part ∈ parts, part.Legible := by
  induction parts with
  | nil => simp [AllLegible]
  | cons part rest ih => simp [AllLegible, ih]

theorem values_append (truth : Nat → Bool) (first : Nat) (parts further : List Formula) :
    values truth first (parts ++ further) =
      values truth first parts ++ values truth (first + (atomsOf parts).length) further := by
  induction parts generalizing first with
  | nil => rfl
  | cons part rest ih => simp [values, atomsOf, ih, Nat.add_assoc]

end Formula

end BoundSql
