import BoundSql.Proofs.Draft.Statements
/-!
# Conditions of which nothing is written

Whether a condition renders empty is told from its clauses, and whether its text is empty
from what is written of them.  The two agree but for the clauses of which nothing is
written: a column that is not in an empty list, and an empty literal.
-/

namespace BoundSql

namespace Draft

theorem isSilent_join_iff {separator : String} (nonempty : separator ≠ "") {drafts : List Draft}
    (heard : ∀ draft ∈ drafts, draft.isSilent = false) :
    (join separator drafts).isSilent ↔ drafts = [] := by
  match drafts with
  | [] => exact iff_of_true rfl rfl
  | [draft] => simpa [join] using heard draft
  | first :: second :: rest =>
    have visible := visible_join nonempty first second rest
    simp [isSilent_eq_false_of_visible visible]

theorem grouped_eq_nil_iff (draft : Draft) : draft.grouped = [] ↔ draft.isSilent := by
  simp [grouped]

/-- A draft that can be written has an empty text if there is nothing to write. -/
theorem Sturdy.eq_empty_iff {draft : Draft} (sturdy : draft.Sturdy) {dialect : Dialect}
    {parameters after : Parameters} {text : String}
    (given : draft.write dialect parameters = .ok text after) :
    text = "" ↔ draft.isSilent := by
  obtain silent | visible := sturdy
  · rw [write_of_isSilent dialect silent] at given
    cases given
    simp [silent]
  · obtain ⟨pieces, _ | lack⟩ := draft
    · have solid : ∃ piece ∈ pieces, piece.isSolid := by simpa [Visible] using visible
      cases given
      simp [isSilent_eq_false_of_visible visible, render_ne_empty dialect solid]
    · cases given

end Draft

/-! ### Clauses of which nothing is written -/

namespace Condition

mutual

/-- Whether there is a clause of which nothing is written, at any depth. -/
def skips : Condition → Bool
  | { memberships, literals, subconditions, .. } =>
    memberships.any MembershipClause.isVoid || literals.contains "" || anySkips subconditions

def anySkips : List Condition → Bool
  | [] => false
  | condition :: rest => condition.skips || anySkips rest

end

end Condition

theorem ComparisonClause.drafts_eq_nil_iff (clauses : List ComparisonClause) :
    drafts clauses = [] ↔ clauses = [] := by
  cases clauses with
  | nil => simp [drafts]
  | cons clause rest => cases clause; simp [drafts]

theorem ExistenceClause.drafts_eq_nil_iff (clauses : List ExistenceClause) :
    drafts clauses = [] ↔ clauses = [] := by
  cases clauses with
  | nil => simp [drafts]
  | cons clause rest => cases clause; simp [drafts]

namespace Condition

/-- Where no clause is skipped there is something to see of each. -/
theorem visible_clauses (comparisons : List ComparisonClause) (ranges : List RangeClause)
    {memberships : List MembershipClause} (nullChecks : List NullClause)
    (bits : List BitClause) (searches : List SearchClause)
    (existences : List ExistenceClause) {literals : List String}
    (subconditions : List Condition) (noneVoid : ∀ clause ∈ memberships, clause.isVoid = false)
    (noneEmpty : "" ∉ literals) :
    ∀ draft ∈ searches.map SearchClause.draft ++ MembershipClause.drafts memberships ++
        ranges.map RangeClause.draft ++ ComparisonClause.drafts comparisons ++
        nullChecks.map NullClause.draft ++ bits.map BitClause.draft ++
        ExistenceClause.drafts existences ++ literals.map Draft.ofText ++
        subdrafts subconditions,
      draft.Visible := by
  simp only [List.forall_mem_append, List.forall_mem_map]
  refine ⟨⟨⟨⟨⟨⟨⟨⟨?_, ?_⟩, ?_⟩, ?_⟩, ?_⟩, ?_⟩, ?_⟩, ?_⟩, ?_⟩
  · exact fun clause _ => by simp [SearchClause.draft]
  · intro draft member
    obtain ⟨clause, among, rfl⟩ := List.mem_map.mp member
    exact MembershipClause.visible_draft (noneVoid clause (List.mem_filter.mp among).1)
  · exact fun clause _ => by simp [RangeClause.draft]
  · exact ComparisonClause.visible_drafts comparisons
  · exact fun clause _ => by simp [NullClause.draft]
  · exact fun clause _ => by simp [BitClause.draft]
  · exact ExistenceClause.visible_drafts existences
  · intro literal among
    rw [Draft.visible_ofText]
    exact fun empty => noneEmpty (empty ▸ among)
  · exact visible_subdrafts subconditions

mutual

/-- A condition renders empty if there is nothing to write and no clause is skipped. -/
theorem rendersEmpty_iff : (condition : Condition) →
    (condition.rendersEmpty ↔ condition.draft.isSilent ∧ condition.skips = false)
  | { table, conjunction, comparisons, ranges, memberships, nullChecks, bits, searches,
      existences, literals, subconditions } => by
    have groups := allRenderEmpty_iff subconditions
    rw [rendersEmpty, draft, skips, Bool.and_eq_true, Bool.or_eq_false_iff, Bool.or_eq_false_iff,
      groups]
    constructor
    · rintro ⟨own, noGroup, unskipped⟩
      simp only [hasNoOwnClause, Bool.and_eq_true, List.isEmpty_iff] at own
      obtain ⟨⟨⟨⟨⟨⟨⟨rfl, rfl⟩, rfl⟩, rfl⟩, rfl⟩, rfl⟩, rfl⟩, rfl⟩ := own
      rw [noGroup]
      exact ⟨rfl, ⟨rfl, rfl⟩, unskipped⟩
    · rintro ⟨silent, ⟨noneVoid, noneEmpty⟩, unskipped⟩
      rw [List.any_eq_false] at noneVoid
      have heard := visible_clauses comparisons ranges nullChecks bits searches existences
        subconditions (by simpa using noneVoid) (by simpa using noneEmpty)
      have none := (Draft.isSilent_join_iff (by simp) fun draft member =>
        Draft.isSilent_eq_false_of_visible (heard draft member)).mp silent
      simp only [List.append_eq_nil_iff, List.map_eq_nil_iff, MembershipClause.drafts,
        List.filter_eq_nil_iff, ComparisonClause.drafts_eq_nil_iff,
        ExistenceClause.drafts_eq_nil_iff] at none
      obtain ⟨⟨⟨⟨⟨⟨⟨⟨rfl, allVoid⟩, rfl⟩, rfl⟩, rfl⟩, rfl⟩, rfl⟩, rfl⟩, noGroup⟩ := none
      have noMembership : memberships = [] := by
        rw [List.eq_nil_iff_forall_not_mem]
        intro clause among
        exact allVoid clause among (by simpa using noneVoid clause among)
      exact ⟨by simp [hasNoOwnClause, noMembership], noGroup, unskipped⟩

theorem allRenderEmpty_iff : (conditions : List Condition) →
    (allRenderEmpty conditions ↔ subdrafts conditions = [] ∧ anySkips conditions = false)
  | [] => by simp [allRenderEmpty, subdrafts, anySkips]
  | condition :: rest => by
    have first := rendersEmpty_iff condition
    have others := allRenderEmpty_iff rest
    simp only [allRenderEmpty, subdrafts, anySkips, Bool.and_eq_true, Bool.or_eq_false_iff,
      List.append_eq_nil_iff, Draft.grouped_eq_nil_iff, first, others]
    tauto

end

/-- A condition that can be written renders empty if its text is empty and no clause is
skipped. -/
theorem rendersEmpty_iff_text {condition : Condition} {dialect : Dialect}
    {parameters after : Parameters} {text : String}
    (given : condition.text dialect parameters = .ok text after) :
    condition.rendersEmpty ↔ text = "" ∧ condition.skips = false := by
  rw [← write_draft] at given
  rw [rendersEmpty_iff, condition.sturdy_draft.eq_empty_iff given]

/-- A condition that holds nothing but other conditions. -/
def hollow : Condition :=
  { conjunction := .or, subconditions := [{}, { conjunction := .andNot, subconditions := [{}] }] }

theorem rendersEmpty_iff_text_hollow :
    hollow.text .mysql {} = .ok "" {} ∧ hollow.rendersEmpty :=
  ⟨rfl, (@rendersEmpty_iff_text hollow .mysql {} {} "" rfl).mpr ⟨rfl, by decide +kernel⟩⟩

/-- A column is not in an empty list, of which nothing is written. -/
def unsaid : Condition :=
  { memberships := [{ subject := { name := "a" }, values := [], negated := true }] }

/-- The text is empty, and the condition does not render empty. -/
theorem rendersEmpty_ne_isEmpty_text :
    unsaid.text .mysql {} = .ok "" {} ∧ unsaid.rendersEmpty = false :=
  ⟨rfl, by decide +kernel⟩

end Condition

end BoundSql
