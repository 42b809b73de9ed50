/-!
# Cutting a text to a number of bytes

Lengths are counted in bytes of UTF-8.  A cut never divides a character: what is
kept is the longest run of whole characters that fits.
-/

namespace BoundSql.Text

/-- The longest beginning of a text that takes at most `room` bytes. -/
def fitting : (room : Nat) → List Char → List Char
  | _, [] => []
  | room, char :: rest =>
    if char.utf8Size ≤ room then
      char :: fitting (room - char.utf8Size) rest
    else
      []

/-- A text cut to a limit.  Three dots follow if anything was left out, and they
do not count towards the limit. -/
def truncate (limit : Option Nat) (text : String) : String :=
  match limit with
  | none => text
  | some most =>
    if text.utf8ByteSize ≤ most then
      text
    else
      String.ofList (fitting most text.toList) ++ "..."

theorem fitting_append_drop (room : Nat) (chars : List Char) :
    fitting room chars ++ chars.drop (fitting room chars).length = chars := by
  induction chars generalizing room with
  | nil => rfl
  | cons char rest ih =>
    simp only [fitting]
    split
    · simp [ih]
    · rfl

end BoundSql.Text
