import BoundSql.Proofs.Meaning.Formula
/-!
# Reading formulas

The reader finds in the text of a legible formula what the formula says.
-/

namespace BoundSql

open Text (Word outerWords isBalanced negation)

/-! ### Balance and words -/

namespace Text

/-- Each item after the first follows a separator. -/
theorem intercalate_cons {Item : Type} (separator first : List Item) (rest : List (List Item)) :
    separator.intercalate (first :: rest) = first ++ rest.flatMap (separator ++ ·) := by
  induction rest generalizing first with
  | nil => simp
  | cons second rest ih => simp [ih]

theorem isOperand_parenthesized {text : String} (balanced : isBalanced text) :
    isOperand ("(" ++ text ++ ")") := by
  simp [isOperand, isBalanced_parenthesized balanced, outerWords_group balanced, Word.connects]

theorem isOperand_exists {text : String} (balanced : isBalanced text) :
    isOperand ("EXISTS (" ++ text ++ ")") := by
  have regroup : "EXISTS (" ++ text ++ ")" =
      "EXISTS" ++ String.singleton ' ' ++ ("(" ++ text ++ ")") := by
    have opening : "EXISTS (" = "EXISTS" ++ String.singleton ' ' ++ "(" := by decide
    simp only [opening, String.append_assoc]
  have word : isBalanced "EXISTS" ∧ outerWords "EXISTS" = [.plain "EXISTS".toList] := by decide
  have blank : isBalanced (String.singleton ' ') := by decide
  have whole : isBalanced ("EXISTS" ++ String.singleton ' ' ++ ("(" ++ text ++ ")")) :=
    isBalanced_append (isBalanced_append word.1 blank) (isBalanced_parenthesized balanced)
  have words : outerWords ("EXISTS" ++ String.singleton ' ' ++ ("(" ++ text ++ ")")) =
      [.plain "EXISTS".toList, .group text.toList] := by
    rw [outerWords_append word.1 (by decide), word.2, outerWords_group balanced]
    rfl
  rw [regroup]
  simp only [isOperand, whole, words]
  rfl

theorem isBalanced_of_isOperand {text : String} (operand : isOperand text) : isBalanced text := by
  simp_all [isOperand]

theorem outerWords_ne_nil {text : String} (operand : isOperand text) : outerWords text ≠ [] := by
  simp_all [isOperand]

theorem not_mem_outerWords {text : String} (operand : isOperand text) {word : Word}
    (connects : word.connects) : word ∉ outerWords text := by
  intro member
  simp_all [isOperand]

theorem isBalanced_notIf (negated : Bool) : isBalanced (notIf negated) := by
  cases negated <;> decide

theorem outerWords_notIf (negated : Bool) (text : String) :
    outerWords (notIf negated ++ text) = negation negated ++ outerWords text := by
  cases negated with
  | false => simp [notIf, negation]
  | true =>
    have split : notIf true = "NOT" ++ String.singleton ' ' := by decide
    rw [split, outerWords_append (by decide) (by decide)]
    rfl

end Text

namespace Conjunction

theorem isBalanced_connect (conjunction : Conjunction) {texts : List String}
    (balanced : ∀ text ∈ texts, isBalanced text) : isBalanced (conjunction.connect texts) := by
  have between : isBalanced (" " ++ conjunction.keyword ++ " ") := by
    cases conjunction <;> decide
  unfold connect
  induction texts with
  | nil => rfl
  | cons text rest ih =>
    have first := balanced text (by simp)
    have others := ih fun text member => balanced text (by simp [member])
    cases rest with
    | nil => simpa using first
    | cons next rest =>
      rw [String.intercalate_cons_cons]
      exact Text.isBalanced_append (Text.isBalanced_append first between) others

theorem outerWords_connect (conjunction : Conjunction) {texts : List String}
    (balanced : ∀ text ∈ texts, isBalanced text) :
    outerWords (conjunction.connect texts) =
      conjunction.words.intercalate (texts.map outerWords) := by
  have keyword : isBalanced conjunction.keyword ∧
      outerWords conjunction.keyword = conjunction.words := by
    cases conjunction <;> decide
  unfold connect
  induction texts with
  | nil => rfl
  | cons text rest ih =>
    have first := balanced text (by simp)
    have others := ih fun text member => balanced text (by simp [member])
    cases rest with
    | nil => simp
    | cons next rest =>
      have regroup : ∀ after, text ++ (" " ++ conjunction.keyword ++ " ") ++ after =
          text ++ String.singleton ' ' ++
            (conjunction.keyword ++ String.singleton ' ' ++ after) := by
        intro after
        have blank : String.singleton ' ' = " " := rfl
        simp only [blank, String.append_assoc]
      rw [String.intercalate_cons_cons, regroup, Text.outerWords_append first (by decide),
        Text.outerWords_append keyword.1 (by decide), keyword.2, others]
      simp

theorem connect_ne_empty (conjunction : Conjunction) {text : String} (shown : text ≠ "")
    (rest : List String) : conjunction.connect (text :: rest) ≠ "" := by
  unfold connect
  cases rest with
  | nil => simpa using shown
  | cons next rest =>
    rw [String.intercalate_cons_cons]
    simp [shown]

/-- The words between two parts are a connective, and then the NOT of the part after
it. -/
theorem intercalate_words (conjunction : Conjunction) (first : List Word)
    (rest : List (List Word)) :
    conjunction.words.intercalate (first :: rest) =
      [conjunction.connective].intercalate
        (first :: rest.map (negation conjunction.negates ++ ·)) := by
  simp [Text.intercalate_cons, List.flatMap_map, words]

end Conjunction

/-! ### Parts of a text -/

namespace Reader

variable {group : List Char → Reader Bool}

theorem text_succ {text : String} (nonempty : outerWords text ≠ []) (depth : Nat) :
    Reader.text (depth + 1) text.toList = terms (Reader.text depth) (outerWords text) := by
  unfold outerWords at nonempty ⊢
  rw [Reader.text]
  split
  · contradiction
  · simp [*]

theorem factor_eq_operand {words : List Word} (nonempty : words ≠ []) (plain : .not ∉ words) :
    factor group words = operand group words := by
  cases words with
  | nil => contradiction
  | cons word rest =>
    have : word ≠ .not := by
      rintro rfl
      simp at plain
    simp [factor, this]

theorem yields_atom {text : String} (isOperand : Text.isOperand text) (truth : Bool) :
    (factor group (outerWords text)).Yields [(text, truth)] truth := by
  rw [factor_eq_operand (Text.outerWords_ne_nil isOperand) (Text.not_mem_outerWords isOperand rfl)]
  intro rest
  simp [operand]

/-- Parentheses are read as such unless they are the next atom. -/
theorem Yields.parenthesized {inner : List Char} {legend : Legend} {value : Bool}
    (yields : (group inner).Yields legend value) (nonempty : legend ≠ [])
    (nested : ∀ entry ∈ legend, outerWords entry.1 ≠ [.group inner]) :
    (factor group [.group inner]).Yields legend value := by
  rw [factor_eq_operand (by simp) (by simp)]
  obtain ⟨⟨atom, truth⟩, legend, rfl⟩ := List.exists_cons_of_ne_nil nonempty
  intro rest
  have other : outerWords atom ≠ [.group inner] := nested (atom, truth) (by simp)
  simpa [operand, other, Reader.parenthesized] using yields rest

theorem Yields.negated {words : List Word} {legend : Legend} {value : Bool}
    (yields : (factor group words).Yields legend value) (negates : Bool) :
    (factor group (negation negates ++ words)).Yields legend (negates ^^ value) := by
  cases negates with
  | false => simpa [negation] using yields
  | true =>
    have reversed := yields.map not
    rw [← factor_not] at reversed
    simpa [negation] using reversed

theorem Yields.conjunction {parts : List (List Word)} {legend : Legend} {values : List Bool}
    (yields : (parts.mapM (factor group)).Yields legend values) (nonempty : parts ≠ [])
    (plain : ∀ words ∈ parts, .and ∉ words ∧ .or ∉ words) :
    (terms group ([.and].intercalate parts)).Yields legend (values.all id) := by
  have single : .or ∉ [Word.and].intercalate parts := by
    cases parts with
    | nil => contradiction
    | cons first rest =>
      simp only [Text.intercalate_cons, List.mem_append, List.mem_flatMap]
      grind
  rw [terms_eq_term single, term_intercalate nonempty fun words member => (plain words member).1]
  simpa only [bind_pure_comp] using yields.map fun factors => factors.all id

/-- Texts without AND are factors. -/
theorem mapM_term {parts : List (List Word)} (plain : ∀ words ∈ parts, .and ∉ words) :
    parts.mapM (term group) = parts.mapM (factor group) := by
  induction parts with
  | nil => rfl
  | cons words rest ih =>
    have first : .and ∉ words := plain words (by simp)
    have others := ih fun words member => plain words (by simp [member])
    rw [List.mapM_cons, List.mapM_cons, term_eq_factor first, others]

theorem Yields.disjunction {parts : List (List Word)} {legend : Legend} {values : List Bool}
    (yields : (parts.mapM (factor group)).Yields legend values) (nonempty : parts ≠ [])
    (plain : ∀ words ∈ parts, .and ∉ words ∧ .or ∉ words) :
    (terms group ([.or].intercalate parts)).Yields legend (values.any id) := by
  rw [terms_intercalate nonempty fun words member => (plain words member).2,
    mapM_term fun words member => (plain words member).1]
  simpa only [bind_pure_comp] using yields.map fun factors => factors.any id

/-- Parts are read one after the other, with what a conjunction puts between them. -/
theorem Yields.connect {conjunction : Conjunction} {first : List Word} {rest : List (List Word)}
    {legend further : Legend} {value : Bool} {values : List Bool}
    (plain : ∀ words ∈ first :: rest, .and ∉ words ∧ .or ∉ words)
    (yields : (factor group first).Yields legend value)
    (yieldsRest : (rest.mapM fun words =>
      factor group (negation conjunction.negates ++ words)).Yields further
        (values.map (conjunction.negates ^^ ·))) :
    (terms group (conjunction.words.intercalate (first :: rest))).Yields (legend ++ further)
      (conjunction.combine (value :: values)) := by
  have plainParts : ∀ words ∈ first :: rest.map (negation conjunction.negates ++ ·),
      .and ∉ words ∧ .or ∉ words := by
    have plainNegation : ∀ word ∈ negation conjunction.negates, word = .not := by
      cases conjunction.negates <;> simp [negation]
    simp only [List.forall_mem_cons, List.forall_mem_map, List.mem_append]
    refine ⟨plain first (by simp), fun words member => ?_⟩
    have own := plain words (by simp [member])
    grind
  have yieldsParts : ((first :: rest.map (negation conjunction.negates ++ ·)).mapM
      (factor group)).Yields (legend ++ further)
        (value :: values.map (conjunction.negates ^^ ·)) := by
    have others := yieldsRest.map (value :: ·)
    rw [map_eq_pure_bind] at others
    rw [List.mapM_cons, List.mapM_map]
    exact yields.bind others
  rw [conjunction.intercalate_words, conjunction.combine_cons]
  cases conjunction with
  | and | andNot => exact yieldsParts.conjunction (by simp) plainParts
  | or | orNot => exact yieldsParts.disjunction (by simp) plainParts

end Reader

/-! ### Formulas -/

namespace Formula

mutual

theorem isBalanced_text : (formula : Formula) → formula.Legible → isBalanced formula.text
  | clause text negated, legible => by
    have isOperand : Text.isOperand text := legible
    exact Text.isBalanced_append (Text.isBalanced_notIf negated)
      (Text.isBalanced_of_isOperand isOperand)
  | group conjunction parts, legible =>
    Text.isBalanced_parenthesized
      (conjunction.isBalanced_connect (isBalanced_texts parts legible.2))

theorem isBalanced_texts : (parts : List Formula) → AllLegible parts →
    ∀ text ∈ texts parts, isBalanced text
  | [], _ => by simp [texts]
  | part :: rest, legible => by
    simp only [texts, List.forall_mem_cons]
    exact ⟨isBalanced_text part legible.1, isBalanced_texts rest legible.2⟩

end

theorem outerWords_text {formula : Formula} (legible : formula.Legible) :
    outerWords formula.text =
      match formula with
      | clause text negated => negation negated ++ outerWords text
      | group conjunction parts => [.group (conjunction.connect (texts parts)).toList] := by
  cases formula with
  | clause text negated => exact Text.outerWords_notIf negated text
  | group conjunction parts =>
    exact Text.outerWords_group
      (conjunction.isBalanced_connect (isBalanced_texts parts legible.2))

theorem outerWords_text_ne_nil {formula : Formula} (legible : formula.Legible) :
    outerWords formula.text ≠ [] := by
  rw [outerWords_text legible]
  cases formula with
  | clause text negated => simp [Text.outerWords_ne_nil legible]
  | group conjunction parts => simp

theorem outerWords_connect_ne_nil {conjunction : Conjunction} {parts : List Formula}
    (nonempty : parts ≠ []) (legible : AllLegible parts) :
    outerWords (conjunction.connect (texts parts)) ≠ [] := by
  obtain ⟨part, rest, rfl⟩ := List.exists_cons_of_ne_nil nonempty
  rw [conjunction.outerWords_connect (isBalanced_texts _ legible), texts, List.map_cons,
    Text.intercalate_cons]
  simp [outerWords_text_ne_nil legible.1]

theorem text_ne_empty {formula : Formula} (legible : formula.Legible) : formula.text ≠ "" := by
  intro silent
  have words := outerWords_text_ne_nil legible
  rw [silent] at words
  contradiction

/-- There is no text only where there is nothing to connect. -/
theorem isEmpty_connect (conjunction : Conjunction) {parts : List Formula}
    (shown : ∀ part ∈ parts, part.text ≠ "") :
    (conjunction.connect (texts parts)).isEmpty = parts.isEmpty := by
  cases parts with
  | nil => simp [texts, Conjunction.connect]
  | cons part rest =>
    have text : conjunction.connect (texts (part :: rest)) ≠ "" := by
      rw [texts]
      exact conjunction.connect_ne_empty (shown part (by simp)) (texts rest)
    simpa using text

/-- The words of a formula do not connect it with others. -/
theorem plain_text {formula : Formula} (legible : formula.Legible) :
    .and ∉ outerWords formula.text ∧ .or ∉ outerWords formula.text := by
  rw [outerWords_text legible]
  cases formula with
  | clause text negated =>
    have isOperand : Text.isOperand text := legible
    have and : .and ∉ outerWords text := Text.not_mem_outerWords isOperand rfl
    have or : .or ∉ outerWords text := Text.not_mem_outerWords isOperand rfl
    cases negated <;> simp [negation, and, or]
  | group conjunction parts => simp

theorem length_le_connect (conjunction : Conjunction) {texts : List String} {text : String}
    (member : text ∈ texts) : text.length ≤ (conjunction.connect texts).length := by
  unfold Conjunction.connect
  induction texts with
  | nil => simp at member
  | cons first rest ih =>
    cases rest with
    | nil => simp_all
    | cons second rest =>
      rw [String.intercalate_cons_cons, String.length_append, String.length_append]
      obtain rfl | later := List.mem_cons.mp member
      · omega
      · have := ih later
        omega

theorem length_text_group (conjunction : Conjunction) (parts : List Formula) :
    (group conjunction parts).text.length = (conjunction.connect (texts parts)).length + 2 := by
  have opening : "(".length = 1 := rfl
  have closing : ")".length = 1 := rfl
  simp only [Formula.text, String.length_append]
  omega

mutual

/-- No clause is longer than the text that it stands in. -/
theorem length_atoms : (formula : Formula) →
    ∀ atom ∈ formula.atoms, atom.length ≤ formula.text.length
  | clause text negated => by simp [atoms, Formula.text]
  | group conjunction parts => by
    intro atom member
    obtain ⟨text, among, short⟩ := length_atomsOf parts atom member
    have within := length_le_connect conjunction among
    have whole := length_text_group conjunction parts
    omega

theorem length_atomsOf : (parts : List Formula) →
    ∀ atom ∈ atomsOf parts, ∃ text ∈ texts parts, atom.length ≤ text.length
  | [], _, member => by simp [atomsOf] at member
  | part :: rest, atom, member => by
    obtain own | later := List.mem_append.mp member
    · exact ⟨part.text, by simp [texts], length_atoms part atom own⟩
    · obtain ⟨text, among, short⟩ := length_atomsOf rest atom later
      exact ⟨text, by simp [texts, among], short⟩

end

mutual

theorem atoms_ne_nil : (formula : Formula) → formula.Legible → formula.atoms ≠ []
  | clause text _, _ => by simp [atoms]
  | group _ parts, legible => atomsOf_ne_nil parts legible.1 legible.2

theorem atomsOf_ne_nil : (parts : List Formula) → parts ≠ [] → AllLegible parts →
    atomsOf parts ≠ []
  | [], nonempty, _ => absurd rfl nonempty
  | part :: rest, _, legible => by simp [atomsOf, atoms_ne_nil part legible.1]

end

mutual

/-- The reader meets the atoms of a formula in the formula's text, and finds its
truth. -/
theorem yields_text (truth : Nat → Bool) : (formula : Formula) → formula.Legible →
    (first depth : Nat) → formula.text.length ≤ depth →
    (Reader.factor (Reader.text depth) (outerWords formula.text)).Yields
      (.ofAtoms truth first formula.atoms) (formula.value truth first)
  | clause text negated, legible, first, depth, short => by
    rw [outerWords_text legible]
    exact (Reader.yields_atom legible (truth first)).negated negated
  | group conjunction parts, legible, first, depth, short => by
    rw [outerWords_text legible]
    rw [length_text_group] at short
    obtain ⟨depth, rfl⟩ : ∃ inner, depth = inner + 1 := ⟨depth - 1, by omega⟩
    have shorter : ∀ text ∈ texts parts, text.length ≤ depth := by
      intro text member
      have := length_le_connect conjunction member
      omega
    have inside := yields_connect truth conjunction parts legible.1 legible.2 first depth shorter
    -- the next atom is one from inside the parentheses, too short to be taken for them
    rw [← Reader.text_succ (outerWords_connect_ne_nil legible.1 legible.2)] at inside
    apply inside.parenthesized
    · simpa [Legend.ofAtoms] using atomsOf_ne_nil parts legible.1 legible.2
    · intro entry member
      obtain ⟨text, among, within⟩ := length_atomsOf parts entry.1 (Legend.mem_ofAtoms member)
      have := length_le_connect conjunction among
      exact Text.outerWords_ne_group (by omega)

theorem yields_texts (truth : Nat → Bool) (negates : Bool) : (parts : List Formula) →
    AllLegible parts → (first depth : Nat) → (∀ text ∈ texts parts, text.length ≤ depth) →
    ((texts parts).mapM fun text =>
      Reader.factor (Reader.text depth) (negation negates ++ outerWords text)).Yields
        (.ofAtoms truth first (atomsOf parts)) ((values truth first parts).map (negates ^^ ·))
  | [], _, _, _, _ => Reader.yields_pure []
  | part :: rest, legible, first, depth, short => by
    simp only [texts, List.forall_mem_cons] at short
    have yields := (yields_text truth part legible.1 first depth short.1).negated negates
    have others := (yields_texts truth negates rest legible.2 (first + part.atoms.length) depth
      short.2).map ((negates ^^ part.value truth first) :: ·)
    rw [map_eq_pure_bind] at others
    rw [texts, List.mapM_cons, atomsOf, Legend.ofAtoms_append]
    exact yields.bind others

theorem yields_connect (truth : Nat → Bool) (conjunction : Conjunction) :
    (parts : List Formula) → parts ≠ [] → AllLegible parts → (first depth : Nat) →
    (∀ text ∈ texts parts, text.length ≤ depth) →
    (Reader.terms (Reader.text depth) (outerWords (conjunction.connect (texts parts)))).Yields
      (.ofAtoms truth first (atomsOf parts)) (conjunction.combine (values truth first parts))
  | [], nonempty, _, _, _, _ => absurd rfl nonempty
  | part :: rest, _, legible, first, depth, short => by
    have balanced := isBalanced_texts (part :: rest) legible
    have plain : ∀ words ∈ (texts (part :: rest)).map outerWords, .and ∉ words ∧ .or ∉ words := by
      simpa [texts_eq] using fun part member =>
        plain_text ((allLegible_iff _).mp legible part member)
    simp only [texts, List.forall_mem_cons] at short
    have yields := yields_text truth part legible.1 first depth short.1
    have others := yields_texts truth conjunction.negates rest legible.2
      (first + part.atoms.length) depth short.2
    rw [conjunction.outerWords_connect balanced, atomsOf, Legend.ofAtoms_append]
    apply Reader.Yields.connect plain yields
    simpa [List.mapM_map, Function.comp_def] using others

end

end Formula

end BoundSql
