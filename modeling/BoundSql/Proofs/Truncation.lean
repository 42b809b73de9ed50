import BoundSql.Text.Truncate
/-!
# A cut keeps the longest run of whole characters

A text can be cut without looking at its characters one by one: from the limit one goes back
byte by byte to where a character begins.  What is kept is the same, the longest beginning of
the text that fits.
-/

namespace BoundSql.Text

/-- What is kept of a text, where the dots do not count. -/
def cut (most : Nat) (text : String) : String :=
  .ofList (fitting most text.toList)

/-- The last place at which a character begins or the text ends, going back byte by byte. -/
def boundary (text : String) : (bytes : Nat) → Nat
  | 0 => 0
  | bytes + 1 =>
    if (⟨bytes + 1⟩ : String.Pos.Raw).IsValid text then bytes + 1 else boundary text bytes

/-- The longest beginning of a text that takes at most so many bytes. -/
structure IsLongest (most : Nat) (text kept : String) : Prop where
  begins : ∃ left, text = kept ++ left
  divides : kept.rawEndPos.IsValid text
  fits : kept.utf8ByteSize ≤ most
  longest : ∀ other left, text = other ++ left → other.utf8ByteSize ≤ most →
    ∃ further, kept = other ++ further
  full : ∀ char left, text = kept ++ .singleton char ++ left →
    most < kept.utf8ByteSize + char.utf8Size
  whole : text.utf8ByteSize ≤ most → kept = text

/-! ### Characters that fit -/

theorem utf8ByteSize_ofList_cons (char : Char) (rest : List Char) :
    (String.ofList (char :: rest)).utf8ByteSize =
      char.utf8Size + (String.ofList rest).utf8ByteSize := by
  rw [String.ofList_cons, String.utf8ByteSize_append, String.utf8ByteSize_singleton]

theorem fitting_begins (room : Nat) (chars : List Char) : fitting room chars <+: chars :=
  ⟨_, fitting_append_drop room chars⟩

theorem utf8ByteSize_fitting_le (room : Nat) (chars : List Char) :
    (String.ofList (fitting room chars)).utf8ByteSize ≤ room := by
  induction chars generalizing room with
  | nil => simp [fitting]
  | cons char rest ih =>
    rw [fitting]
    split
    · next fits =>
      have others := ih (room - char.utf8Size)
      rw [utf8ByteSize_ofList_cons]
      omega
    · simp

/-- What fits of the characters begins with all that begins them and fits. -/
theorem prefix_fitting {room : Nat} {beginning chars : List Char}
    (begins : beginning <+: chars)
    (fits : (String.ofList beginning).utf8ByteSize ≤ room) :
    beginning <+: fitting room chars := by
  induction chars generalizing room beginning with
  | nil => exact begins
  | cons char rest ih =>
    cases beginning with
    | nil => exact List.nil_prefix
    | cons first others =>
      obtain ⟨rfl, othersBegin⟩ := List.cons_prefix_cons.mp begins
      rw [utf8ByteSize_ofList_cons] at fits
      rw [fitting, if_pos (by omega), List.cons_prefix_cons]
      exact ⟨rfl, ih othersBegin (by omega)⟩

/-! ### Boundaries -/

theorem boundary_isValid (text : String) (bytes : Nat) :
    (⟨boundary text bytes⟩ : String.Pos.Raw).IsValid text := by
  induction bytes with
  | zero => exact String.Pos.Raw.isValid_zero
  | succ bytes ih =>
    rw [boundary]
    split
    · assumption
    · exact ih

theorem boundary_le (text : String) (bytes : Nat) : boundary text bytes ≤ bytes := by
  induction bytes with
  | zero => exact Nat.le_refl 0
  | succ bytes ih =>
    rw [boundary]
    split <;> omega

theorem le_boundary {text : String} {place bytes : Nat}
    (valid : (⟨place⟩ : String.Pos.Raw).IsValid text) (before : place ≤ bytes) :
    place ≤ boundary text bytes := by
  induction bytes with
  | zero => exact before
  | succ bytes ih =>
    rw [boundary]
    split
    · exact before
    · next inside =>
      have other : place ≠ bytes + 1 := by
        rintro rfl
        exact inside valid
      exact ih (by omega)

/-! ### The cut -/

theorem cut_longest {text other left : String} {most : Nat} (begins : text = other ++ left)
    (fits : other.utf8ByteSize ≤ most) : ∃ further, cut most text = other ++ further := by
  have starts : other.toList <+: text.toList := ⟨left.toList, by rw [begins, String.toList_append]⟩
  have size : (String.ofList other.toList).utf8ByteSize ≤ most := by rwa [String.ofList_toList]
  obtain ⟨further, same⟩ := prefix_fitting starts size
  refine ⟨.ofList further, ?_⟩
  rw [cut, ← same, String.ofList_append, String.ofList_toList]

theorem cut_full {text left : String} {char : Char} {most : Nat}
    (longer : text = cut most text ++ .singleton char ++ left) :
    most < (cut most text).utf8ByteSize + char.utf8Size := by
  -- If the character fitted, too, it would belong to the cut.
  refine Nat.lt_of_not_le fun fits => ?_
  have size : (cut most text ++ .singleton char).utf8ByteSize ≤ most := by
    rwa [String.utf8ByteSize_append, String.utf8ByteSize_singleton]
  obtain ⟨further, same⟩ := cut_longest longer size
  have sizes := congrArg String.utf8ByteSize same
  simp only [String.utf8ByteSize_append, String.utf8ByteSize_singleton] at sizes
  have positive := char.utf8Size_pos
  omega

theorem cut_of_fits {text : String} {most : Nat} (fits : text.utf8ByteSize ≤ most) :
    cut most text = text := by
  have size : (String.ofList text.toList).utf8ByteSize ≤ most := by rwa [String.ofList_toList]
  have all := prefix_fitting (List.prefix_refl text.toList) size
  rw [cut, (fitting_begins most text.toList).eq_of_length_le all.length_le,
    String.ofList_toList]

theorem cut_isLongest (most : Nat) (text : String) : IsLongest most text (cut most text) := by
  obtain ⟨left, same⟩ := fitting_begins most text.toList
  have begins : text = cut most text ++ .ofList left := by
    rw [cut, ← String.ofList_append, same, String.ofList_toList]
  exact {
    begins := ⟨_, begins⟩
    divides := String.Pos.Raw.isValid_iff_exists_append.mpr ⟨_, _, begins, rfl⟩
    fits := utf8ByteSize_fitting_le _ _
    longest := fun _ _ => cut_longest
    full := fun _ _ => cut_full
    whole := cut_of_fits }

theorem utf8ByteSize_cut (most : Nat) (text : String) :
    (cut most text).utf8ByteSize = boundary text most := by
  have longest := cut_isLongest most text
  apply Nat.le_antisymm
  · exact le_boundary longest.divides longest.fits
  · obtain ⟨kept, left, begins, place⟩ :=
      String.Pos.Raw.isValid_iff_exists_append.mp (boundary_isValid text most)
    have size : boundary text most = kept.utf8ByteSize := congrArg String.Pos.Raw.byteIdx place
    have before := boundary_le text most
    obtain ⟨further, same⟩ := longest.longest kept left begins (by omega)
    rw [same, String.utf8ByteSize_append, size]
    omega

example : boundary "aé" 2 = 1 ∧ cut 2 "aé" = "a" := by decide

/-- A cut keeps the longest run of whole characters.  The cut of a text to a number of bytes
is its longest beginning that takes no more bytes, and ends where one comes, going back byte by
byte from the limit, to a place between characters.  A text without a limit, or that is within
its limit, is left as it is, and of any other the cut is kept, with dots after it. -/
theorem truncate_keeps_longest (most : Nat) (text : String) :
    IsLongest most text (cut most text) ∧
    (cut most text).utf8ByteSize = boundary text most ∧
    truncate none text = text ∧
    truncate (some most) text =
      if text.utf8ByteSize ≤ most then text else cut most text ++ "..." :=
  ⟨cut_isLongest most text, utf8ByteSize_cut most text, rfl, rfl⟩

end BoundSql.Text
