/-!
# Quoted text

A text is quoted by putting a quote character at both ends and writing each
quote character inside it twice.
-/

namespace BoundSql.Text.Quoted

def double (quote : Char) : List Char → List Char
  | [] => []
  | char :: rest =>
    if char = quote then
      quote :: quote :: double quote rest
    else
      char :: double quote rest

def encode (quote : Char) (text : String) : String :=
  String.ofList (quote :: (double quote text.toList ++ [quote]))

/-- A quote character is written twice inside the quotes and all else once. -/
theorem count_double (quote char : Char) (chars : List Char) :
    (double quote chars).count char =
      (if char = quote then 2 else 1) * chars.count char := by
  induction chars with
  | nil => simp [double]
  | cons first rest ih =>
    by_cases same : first = quote <;> by_cases wanted : char = first <;>
      grind [double]

theorem mem_double {quote char : Char} {chars : List Char} (member : char ∈ double quote chars) :
    char ∈ chars := by
  have twice := count_double quote char chars
  rw [← List.count_pos_iff] at member ⊢
  split at twice <;> omega

theorem mem_encode {quote char : Char} {text : String}
    (member : char ∈ (encode quote text).toList) :
    char = quote ∨ char ∈ text.toList := by
  simp only [encode, String.toList_ofList, List.mem_cons, List.mem_append, List.not_mem_nil,
    or_false] at member
  obtain same | inside | same := member
  · exact .inl same
  · exact .inr (mem_double inside)
  · exact .inl same

end BoundSql.Text.Quoted
