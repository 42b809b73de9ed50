/-!
# Blank characters

The blank characters are those of the Unicode property `White_Space`.  Three
readings of a text ignore them: its trimmed form, its list of words, and the
comparison form of a keyword phrase, in which words are separated by one space
and the letters of ASCII are capitals.
-/

namespace BoundSql.Text

/-- A character is blank when it has the Unicode property `White_Space`. -/
def isBlank (char : Char) : Bool :=
  let code := char.toNat
  (0x09 ≤ code && code ≤ 0x0D) || code == 0x20 || code == 0x85 || code == 0xA0 ||
    code == 0x1680 || (0x2000 ≤ code && code ≤ 0x200A) || code == 0x2028 ||
    code == 0x2029 || code == 0x202F || code == 0x205F || code == 0x3000

/-- The pieces of a text between the characters at which it breaks.  A text has
one piece more than it has breaks. -/
def split (breaksAt : Char → Bool) : List Char → List (List Char)
  | [] => [[]]
  | char :: rest =>
    if breaksAt char then
      [] :: split breaksAt rest
    else
      match split breaksAt rest with
      | [] => [[char]]
      | piece :: pieces => (char :: piece) :: pieces

theorem split_ne_nil (breaksAt : Char → Bool) (chars : List Char) :
    split breaksAt chars ≠ [] := by
  cases chars with
  | nil => simp [split]
  | cons char rest =>
    simp only [split]
    split
    · simp
    · split <;> simp

/-- The characters of the pieces are those of the text. -/
theorem mem_of_mem_split {breaksAt : Char → Bool} {chars piece : List Char}
    (member : piece ∈ split breaksAt chars) {char : Char} (inside : char ∈ piece) :
    char ∈ chars := by
  induction chars generalizing piece with
  | nil => simp_all [split]
  | cons first rest ih =>
    simp only [split] at member
    split at member
    · obtain rfl | later := List.mem_cons.mp member
      · simp at inside
      · exact .tail _ (ih later inside)
    · split at member
      · simp_all
      · rename_i leading others pieces
        obtain rfl | later := List.mem_cons.mp member
        · obtain rfl | within := List.mem_cons.mp inside
          · exact .head _
          · exact .tail _ (ih (pieces ▸ .head _) within)
        · exact .tail _ (ih (pieces ▸ .tail _ later) inside)

/-- The words of a text: its longest stretches without blanks. -/
def words (chars : List Char) : List (List Char) :=
  (split isBlank chars).filter fun word => !word.isEmpty

def trim (chars : List Char) : List Char :=
  ((chars.dropWhile isBlank).reverse.dropWhile isBlank).reverse

/-- The words of a phrase in capitals, with one space between two of them. -/
def phrase (text : String) : String :=
  String.ofList ([' '].intercalate (words text.toList) |>.map Char.toUpper)

def keyword (text : String) : String :=
  String.ofList ((trim text.toList).map Char.toUpper)

/-- A text on one line: each line break becomes a space. -/
def singleLine (text : String) : String :=
  String.ofList (text.toList.map fun char =>
    if char = '\r' ∨ char = '\n' then ' ' else char)

end BoundSql.Text
