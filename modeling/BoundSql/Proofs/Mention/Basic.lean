import BoundSql.Proofs.Draft.Finished
import BoundSql.Proofs.Path.Basic
import BoundSql.Statement.Mention
/-!
# The mentions of a draft

A finished draft shows mentions if the identifiers that it quotes are those of the
mentions, in the same order.  All its other pieces are keywords and signs, values, or
what is written for some of the mentions.

What can be left out of a draft without a text shows no identifiers, so that nothing is
lost of the mentions that count.
-/

namespace BoundSql

namespace Piece

/-- The identifiers that a piece quotes. -/
def segments : Piece → List String
  | .name identifier => [identifier]
  | .unnamedColumn => [""]
  | .text _ | .value _ | .remark _ => []

/-- Whether a piece is a keyword or sign, or a value. -/
def IsSign : Piece → Prop
  | .text content => isFirm content
  | .value _ => True
  | .name _ | .unnamedColumn | .remark _ => False

@[simp] theorem segments_text (content : String) : (text content).segments = [] := rfl

theorem isSign_text {content : String} (firm : isFirm content) : (text content).IsSign := firm

end Piece

namespace Mention

/-- What is written for a mention.  The name of a column that has none can take a piece
of its own. -/
inductive Writes (mention : Mention) : Piece → Prop
  | exposed {text : String} (among : text ∈ mention.exposed) : mention.Writes (.text text)
  | remark {text : String} (among : text ∈ mention.exposed) : mention.Writes (.remark text)
  | segment {identifier : String} (among : identifier ∈ mention.segments) :
      mention.Writes (.name identifier)
  | unnamedColumn {column : Column} (same : mention = .column column) (unnamed : column.name = "") :
      mention.Writes .unnamedColumn

end Mention

namespace Draft

/-- A draft shows mentions. -/
structure Shows (draft : Draft) (mentions : List Mention) : Prop where
  segments : draft.IsFinished →
    draft.pieces.flatMap Piece.segments = mentions.flatMap Mention.segments
  origin : ∀ piece ∈ draft.pieces, piece.IsSign ∨ ∃ mention ∈ mentions, mention.Writes piece

/-- Drafts show mentions, one draft after the other.  Mentions that have no identifiers
can be those of a draft that was left out. -/
inductive ShowEach : List Draft → List Mention → Prop
  | nil : ShowEach [] []
  | leftOut {own : List Mention} {rest : List Draft} {others : List Mention}
      (none : own.flatMap Mention.segments = []) (each : ShowEach rest others) :
      ShowEach rest (own ++ others)
  | cons {draft : Draft} {own : List Mention} {rest : List Draft} {others : List Mention}
      (shows : draft.Shows own) (each : ShowEach rest others) :
      ShowEach (draft :: rest) (own ++ others)

/-! ### Composing -/

theorem shows_empty : Shows {} [] :=
  ⟨fun _ => rfl, by simp⟩

theorem shows_fail (lack : Lack) (mentions : List Mention) : (Draft.fail lack).Shows mentions :=
  ⟨fun finished => absurd finished (not_isFinished_fail lack), by simp [Draft.fail]⟩

theorem shows_ofText {content : String} (firm : isFirm content) : (ofText content).Shows [] :=
  ⟨fun _ => rfl, by simpa [ofText, Piece.IsSign] using firm⟩

theorem shows_ofValue (value : Value) : (ofValue value).Shows [] :=
  ⟨fun _ => rfl, by simp [ofValue, Piece.IsSign]⟩

theorem shows_verbatim (content : String) : (ofText content).Shows [.verbatim content] := by
  refine ⟨fun _ => rfl, ?_⟩
  simp only [ofText, List.mem_singleton, forall_eq]
  exact .inr ⟨_, rfl, .exposed (by simp [Mention.exposed])⟩

theorem pieces_append {first : Draft} (finished : first.IsFinished) (second : Draft) :
    (first ++ second).pieces = first.pieces ++ second.pieces := by
  change (first.append second).pieces = _
  obtain ⟨pieces, failure⟩ := first
  obtain rfl : failure = none := finished
  rfl

theorem mem_pieces_append {first second : Draft} {piece : Piece}
    (member : piece ∈ (first ++ second).pieces) : piece ∈ first.pieces ∨ piece ∈ second.pieces := by
  by_cases finished : first.IsFinished
  · rwa [pieces_append finished, List.mem_append] at member
  · obtain ⟨lack, failed⟩ := Option.ne_none_iff_exists'.mp finished
    rw [append_of_failure failed] at member
    exact .inl member

theorem Shows.append {first second : Draft} {mentions others : List Mention}
    (shows : first.Shows mentions) (further : second.Shows others) :
    (first ++ second).Shows (mentions ++ others) := by
  constructor
  · intro finished
    obtain ⟨own, other⟩ := (isFinished_append first second).mp finished
    rw [pieces_append own, List.flatMap_append, List.flatMap_append, shows.segments own,
      further.segments other]
  · intro piece member
    simp only [List.mem_append]
    obtain own | other := mem_pieces_append member
    · refine (shows.origin piece own).imp_right ?_
      rintro ⟨mention, among, writes⟩
      exact ⟨mention, .inl among, writes⟩
    · refine (further.origin piece other).imp_right ?_
      rintro ⟨mention, among, writes⟩
      exact ⟨mention, .inr among, writes⟩

/-- A text before a draft adds nothing to what the draft shows. -/
theorem Shows.led {lead : String} (firm : isFirm lead) {draft : Draft} {mentions : List Mention}
    (shows : draft.Shows mentions) : (ofText lead ++ draft).Shows mentions :=
  (shows_ofText firm).append shows

theorem Shows.closed {close : String} (firm : isFirm close) {draft : Draft}
    {mentions : List Mention} (shows : draft.Shows mentions) :
    (draft ++ ofText close).Shows mentions := by
  simpa using shows.append (shows_ofText firm)

theorem Shows.parenthesized {draft : Draft} {mentions : List Mention}
    (shows : draft.Shows mentions) : draft.parenthesized.Shows mentions :=
  (shows.led (by decide)).closed (by decide)

theorem segments_of_isSilent {draft : Draft} (silent : draft.isSilent) :
    draft.pieces.flatMap Piece.segments = [] := by
  simp only [isSilent, Bool.and_eq_true, List.all_eq_true] at silent
  rw [List.flatMap_eq_nil_iff]
  intro piece member
  have := silent.2 piece member
  cases piece <;> simp_all [Piece.isSilent, Piece.segments]

/-- What is left out because it has no text mentions no identifiers. -/
theorem Shows.segments_of_isSilent {draft : Draft} {mentions : List Mention}
    (shows : draft.Shows mentions) (silent : draft.isSilent) :
    mentions.flatMap Mention.segments = [] := by
  rw [← shows.segments (isFinished_of_isSilent silent), Draft.segments_of_isSilent silent]

theorem Shows.after {draft : Draft} {own mentions : List Mention}
    (none : own.flatMap Mention.segments = []) (shows : draft.Shows mentions) :
    draft.Shows (own ++ mentions) := by
  have empty : Shows {} own := ⟨fun _ => none.symm, by simp⟩
  exact empty.append shows

theorem Shows.ledBy {lead : String} (firm : isFirm lead) {draft : Draft}
    {mentions : List Mention} (shows : draft.Shows mentions) :
    (draft.ledBy lead).Shows mentions := by
  unfold Draft.ledBy
  split
  · rename_i silent
    simpa using shows_empty.after (shows.segments_of_isSilent silent)
  · exact shows.led firm

theorem Shows.under {draft : Draft} {mentions : List Mention} (shows : draft.Shows mentions)
    (comment : Option String) :
    (draft.under comment).Shows (comment.toList.map .comment ++ mentions) := by
  cases comment with
  | none => exact shows
  | some comment =>
    have remark : Shows { pieces := [.remark comment] } [.comment comment] := by
      refine ⟨fun _ => rfl, ?_⟩
      simp only [List.mem_singleton, forall_eq]
      exact .inr ⟨_, rfl, .remark (by simp [Mention.exposed])⟩
    exact remark.append shows

theorem Shows.withTable {table : Table} {body : List Piece → Draft} {mentions : List Mention}
    (shows : (body table.pieces).Shows mentions) : (withTable table body).Shows mentions := by
  unfold Draft.withTable
  split
  · exact shows_fail _ _
  · exact shows

/-! ### Lists of drafts -/

namespace ShowEach

theorem single {draft : Draft} {mentions : List Mention} (shows : draft.Shows mentions) :
    ShowEach [draft] mentions := by
  simpa using ShowEach.cons shows .nil

theorem append {first second : List Draft} {mentions others : List Mention}
    (each : ShowEach first mentions) (further : ShowEach second others) :
    ShowEach (first ++ second) (mentions ++ others) := by
  induction each with
  | nil => exact further
  | leftOut none _ ih =>
    rw [List.append_assoc]
    exact .leftOut none ih
  | cons shows _ ih =>
    rw [List.cons_append, List.append_assoc]
    exact .cons shows ih

variable {Item : Type} {items : List Item}

theorem flatMap {drafts : Item → List Draft} {mentions : Item → List Mention}
    (each : ∀ item ∈ items, ShowEach (drafts item) (mentions item)) :
    ShowEach (items.flatMap drafts) (items.flatMap mentions) := by
  induction items with
  | nil => exact .nil
  | cons item rest ih =>
    exact (each item (by simp)).append (ih fun item member => each item (by simp [member]))

theorem map {draft : Item → Draft} {mentions : Item → List Mention}
    (shows : ∀ item ∈ items, (draft item).Shows (mentions item)) :
    ShowEach (items.map draft) (items.flatMap mentions) := by
  rw [← List.flatMap_singleton' (items.map draft), List.flatMap_map]
  exact flatMap fun item member => single (shows item member)

/-- One mention for each item. -/
theorem mapOne {draft : Item → Draft} {mention : Item → Mention}
    (shows : ∀ item ∈ items, (draft item).Shows [mention item]) :
    ShowEach (items.map draft) (items.map mention) := by
  rw [@List.map_eq_flatMap _ _ mention]
  exact map shows

theorem join {separator : String} (firm : isFirm separator) {drafts : List Draft}
    {mentions : List Mention} (each : ShowEach drafts mentions) :
    (Draft.join separator drafts).Shows mentions := by
  induction each with
  | nil => exact shows_empty
  | leftOut none _ ih => exact ih.after none
  | @cons draft own rest others shows each ih =>
    cases rest with
    | nil => simpa [Draft.join] using shows.append ih
    | cons next rest =>
      rw [join_cons_cons, append_assoc]
      exact shows.append (ih.led firm)

theorem sequence {drafts : List Draft} {mentions : List Mention}
    (each : ShowEach drafts mentions) : (Draft.sequence drafts).Shows mentions := by
  induction each with
  | nil => exact shows_empty
  | leftOut none _ ih => exact ih.after none
  | cons shows _ ih => exact shows.append ih

theorem grouped {draft : Draft} {mentions : List Mention} (shows : draft.Shows mentions) :
    ShowEach draft.grouped mentions := by
  unfold Draft.grouped
  split
  · rename_i silent
    simpa using ShowEach.nil.leftOut (shows.segments_of_isSilent silent)
  · exact single shows.parenthesized

/-- Conditions show what they show also where those without a text are left out and
others are put between parentheses. -/
theorem written {conditions : List (Conjunction × Draft)} {mentions : List Mention}
    (each : ShowEach (conditions.map Prod.snd) mentions) (change : Conjunction × Draft → Draft)
    (kept : ∀ condition own, condition.2.Shows own → (change condition).Shows own) :
    ShowEach ((conditions.filter fun condition => !condition.2.isSilent).map change)
      mentions := by
  generalize listed : conditions.map Prod.snd = drafts at each
  induction each generalizing conditions with
  | nil =>
    obtain rfl := List.map_eq_nil_iff.mp listed
    exact .nil
  | leftOut none _ ih => exact .leftOut none (ih listed)
  | cons shows _ ih =>
    obtain ⟨condition, rest, rfl, rfl, remaining⟩ := List.map_eq_cons_iff.mp listed
    have others := ih remaining
    cases silent : condition.2.isSilent with
    | true => simpa [silent] using others.leftOut (shows.segments_of_isSilent silent)
    | false => simpa [silent] using ShowEach.cons (kept condition _ shows) others

end ShowEach

theorem ShowEach.allOf {conditions : List (Conjunction × Draft)} {mentions : List Mention}
    (each : ShowEach (conditions.map Prod.snd) mentions) : (allOf conditions).Shows mentions := by
  have firm : isFirm " AND " := by decide
  have plain := (each.written Prod.snd fun _ _ shows => shows).join firm
  have grouped := each.written
    (fun condition => if condition.1 = .and then condition.2 else condition.2.parenthesized)
    fun condition own shows => by
      split
      · exact shows
      · exact shows.parenthesized
  simp only [Draft.allOf]
  generalize (conditions.filter fun condition => !condition.2.isSilent) = shown at plain grouped
  cases shown with
  | nil => exact plain
  | cons first rest =>
    cases rest with
    | nil => exact plain
    | cons second rest => exact grouped.join firm

/-- A list of columns shows what the columns show, also if it has one piece for a single
column without a name. -/
theorem ShowEach.columnList {columns : List Draft} {mentions : List Mention}
    (each : ShowEach columns mentions)
    (unnamed : { pieces := [.name ""] } ∈ columns →
      ∃ column, .column column ∈ mentions ∧ column.name = "") :
    (columnList columns).Shows mentions := by
  by_cases single : columns = [{ pieces := [.name ""] }]
  · subst single
    have firm : isFirm ", " := by decide
    have listed := each.join firm
    refine ⟨fun _ => listed.segments rfl, ?_⟩
    obtain ⟨column, member, empty⟩ := unnamed (by simp)
    simp only [Draft.columnList, List.mem_singleton, forall_eq]
    exact .inr ⟨_, member, .unnamedColumn rfl empty⟩
  · rw [columnList_of_ne single]
    exact (each.join (by decide)).ledBy (by decide)

end Draft

end BoundSql
