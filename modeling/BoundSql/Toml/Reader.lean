import BoundSql.Toml.Scalar
/-!
# Reading TOML

A reader takes the beginning of a text and gives what it read together with the
rest.  Each step takes something of the text, whose length bounds their number, and
a document neither nests values deeper nor parts its keys more often than `maxDepth`
says.
-/

namespace BoundSql.Toml.Reader

/-- How deep arrays and tables in braces can nest, and how many parts a key can
have. -/
def maxDepth : Nat := 80

def isSpace (char : Char) : Bool :=
  char == ' ' || char == '\t'

def skipSpaces (chars : List Char) : List Char :=
  chars.dropWhile isSpace

def isPrintable (char : Char) : Bool :=
  char == '\t' || (0x20 ≤ char.toNat && char.toNat != 0x7F)

def lineBreak? : List Char → Option (List Char)
  | '\n' :: rest => some rest
  | '\r' :: '\n' :: rest => some rest
  | _ => none

def skipComment (chars : List Char) : List Char :=
  match skipSpaces chars with
  | '#' :: rest => rest.dropWhile isPrintable
  | rest => rest

def skipLines : (steps : Nat) → List Char → List Char
  | 0, chars => chars
  | steps + 1, chars =>
    let rest := skipComment chars
    match lineBreak? rest with
    | some rest => skipLines steps rest
    | none => rest

def skipAll (chars : List Char) : List Char :=
  skipLines (chars.length + 1) chars

/-- The text after the end of a line, which can be the end of the document. -/
def lineEnd? (chars : List Char) : Option (List Char) :=
  match skipComment chars with
  | [] => some []
  | rest => lineBreak? rest

def coded? (width : Nat) (chars : List Char) : Option (Char × List Char) := do
  let digits := chars.take width
  if digits.length ≠ width then none
  let values ← digits.mapM (Scalar.digitValue? 16)
  let code := values.foldl (fun value digit => 16 * value + digit) 0
  if code < 0xD800 ∨ (0xDFFF < code ∧ code < 0x110000) then
    some (Char.ofNat code, chars.drop width)
  else
    none

def escaped? : List Char → Option (Char × List Char)
  | 'b' :: rest => some ('\x08', rest)
  | 't' :: rest => some ('\t', rest)
  | 'n' :: rest => some ('\n', rest)
  | 'f' :: rest => some ('\x0C', rest)
  | 'r' :: rest => some ('\r', rest)
  | 'e' :: rest => some ('\x1B', rest)
  | '"' :: rest => some ('"', rest)
  | '\\' :: rest => some ('\\', rest)
  | 'x' :: rest => coded? 2 rest
  | 'u' :: rest => coded? 4 rest
  | 'U' :: rest => coded? 8 rest
  | _ => none

/-- The characters of a text with escapes on one line, up to its closing quote. -/
def basic? : (steps : Nat) → List Char → Option (List Char × List Char)
  | 0, _ => none
  | _ + 1, '"' :: rest => some ([], rest)
  | steps + 1, '\\' :: rest => do
    let (char, rest) ← escaped? rest
    let (chars, rest) ← basic? steps rest
    some (char :: chars, rest)
  | steps + 1, char :: rest => do
    if !isPrintable char then none
    let (chars, rest) ← basic? steps rest
    some (char :: chars, rest)
  | _ + 1, [] => none

/-- The characters of a text without escapes on one line, up to its closing
quote. -/
def literal? (chars : List Char) : Option (List Char × List Char) :=
  let content := chars.takeWhile fun char => isPrintable char && char != '\x27'
  match chars.drop content.length with
  | '\x27' :: rest => some (content, rest)
  | _ => none

/-- The end of a text on several lines: three quotes, and up to two more that
belong to the text. -/
def closing? (quote : Char) (chars : List Char) : Option (List Char × List Char) :=
  let quotes := (chars.takeWhile (· == quote)).length
  if quotes < 3 then none
  else
    let inside := min (quotes - 3) 2
    some (List.replicate inside quote, chars.drop (inside + 3))

def skipBlanks : List Char → List Char
  | [] => []
  | '\r' :: '\n' :: rest => skipBlanks rest
  | char :: rest => if isSpace char || char == '\n' then skipBlanks rest else char :: rest

/-- Skips spaces and line breaks after a backslash at the end of a line. -/
def continued? (chars : List Char) : Option (List Char) :=
  (lineBreak? (skipSpaces chars)).map skipBlanks

def lines? (quote : Char) (escapes : Bool) :
    (steps : Nat) → List Char → Option (List Char × List Char)
  | 0, _ => none
  | steps + 1, chars =>
    match closing? quote chars with
    | some result => some result
    | none =>
      match chars with
      | [] => none
      | '\r' :: '\n' :: rest => do
        let (chars, rest) ← lines? quote escapes steps rest
        some ('\r' :: '\n' :: chars, rest)
      | char :: rest =>
        if escapes && char == '\\' then
          match continued? rest with
          | some rest => lines? quote escapes steps rest
          | none => do
            let (char, rest) ← escaped? rest
            let (chars, rest) ← lines? quote escapes steps rest
            some (char :: chars, rest)
        else do
          if !(isPrintable char || char == '\n') then none
          let (chars, rest) ← lines? quote escapes steps rest
          some (char :: chars, rest)

/-- A text on several lines, read after its opening quotes.  A line break right
after them does not belong to it. -/
def linesText? (quote : Char) (escapes : Bool) (chars : List Char) :
    Option (List Char × List Char) :=
  let chars := (lineBreak? chars).getD chars
  lines? quote escapes (chars.length + 1) chars

def isBare (char : Char) : Bool :=
  char.isAlphanum || char == '_' || char == '-'

def keyPart? : List Char → Option (String × List Char)
  | '"' :: rest => do
    let (chars, rest) ← basic? (rest.length + 1) rest
    some (String.ofList chars, rest)
  | '\x27' :: rest => do
    let (chars, rest) ← literal? rest
    some (String.ofList chars, rest)
  | chars =>
    let bare := chars.takeWhile isBare
    if bare.isEmpty then none else some (String.ofList bare, chars.drop bare.length)

def key? : (steps : Nat) → List Char → Option (List String × List Char)
  | 0, _ => none
  | steps + 1, chars => do
    let (part, rest) ← keyPart? (skipSpaces chars)
    match skipSpaces rest with
    | '.' :: rest => do
      let (parts, rest) ← key? steps rest
      some (part :: parts, rest)
    | rest => some ([part], rest)

def wholeKey? (chars : List Char) : Option (List String × List Char) := do
  let (parts, rest) ← key? (chars.length + 1) chars
  if maxDepth < parts.length then none else some (parts, rest)

/-- Whether a character can stand in a group of a run: it neither separates values
nor opens or closes them. -/
def isScalar (char : Char) : Bool :=
  !(isSpace char || ['\r', '\n', '=', ',', '[', ']', '\x7b', '\x7d', '#'].contains char)

/-- Whether a run goes on after a space: with more spaces and then a character of
another group, which no quote opens. -/
def continues (chars : List Char) : Bool :=
  match skipSpaces chars with
  | [] => false
  | char :: _ => isScalar char && char != '"' && char != '\x27'

/-- The run that a text begins with: groups of characters with spaces between
them. -/
def runOf : List Char → List Char
  | [] => []
  | char :: rest =>
    if isScalar char || (isSpace char && continues rest) then char :: runOf rest else []

def scalar? (chars : List Char) : Option (Toml × List Char) :=
  let run := runOf chars
  (Scalar.ofRun? run).map (·, chars.drop run.length)

mutual

/-- A value, in at most so many steps, and with room for so many values inside one
another. -/
def value? : (steps room : Nat) → List Char → Option (Toml × List Char)
  | 0, _, _ => none
  | steps + 1, room, chars =>
    match chars with
    | '"' :: '"' :: '"' :: rest => do
      let (content, rest) ← linesText? '"' true rest
      some (.text (String.ofList content), rest)
    | '"' :: rest => do
      let (content, rest) ← basic? (rest.length + 1) rest
      some (.text (String.ofList content), rest)
    | '\x27' :: '\x27' :: '\x27' :: rest => do
      let (content, rest) ← linesText? '\x27' false rest
      some (.text (String.ofList content), rest)
    | '\x27' :: rest => do
      let (content, rest) ← literal? rest
      some (.text (String.ofList content), rest)
    | '[' :: rest => do
      if room = 0 then none
      let (items, rest) ← items? steps (room - 1) rest
      some (.array items, rest)
    | '\x7b' :: rest => do
      if room = 0 then none
      let (members, rest) ← members? steps (room - 1) [] rest
      some (.table .closed members, rest)
    | _ => scalar? chars

def items? : (steps room : Nat) → List Char → Option (List Toml × List Char)
  | 0, _, _ => none
  | steps + 1, room, chars =>
    match skipAll chars with
    | ']' :: rest => some ([], rest)
    | rest => do
      let (item, rest) ← value? steps room rest
      match skipAll rest with
      | ',' :: rest => do
        let (items, rest) ← items? steps room rest
        some (item :: items, rest)
      | ']' :: rest => some ([item], rest)
      | _ => none

/-- The members of a table in braces, up to its closing brace.  Lines can end
anywhere but inside a key. -/
def members? : (steps room : Nat) → Members → List Char → Option (Members × List Char)
  | 0, _, _, _ => none
  | steps + 1, room, found, chars =>
    match skipAll chars with
    | '\x7d' :: rest => some (found, rest)
    | rest => do
      let (path, rest) ← wholeKey? rest
      match skipAll rest with
      | '=' :: rest => do
        let (value, rest) ← value? steps room (skipAll rest)
        let found ← define? value path found
        match skipAll rest with
        | ',' :: rest => members? steps room found rest
        | '\x7d' :: rest => some (found, rest)
        | _ => none
      | _ => none

end

/-- One expression, where `path` is that of the last header: a header, or a key
and its value.  Gives the path for what follows. -/
def expression? (path : List String) (members : Members) (chars : List Char) :
    Option (List String × Members × List Char) :=
  match chars with
  | '[' :: '[' :: rest => do
    let (path, rest) ← wholeKey? rest
    match rest with
    | ']' :: ']' :: rest => some (path, ← openItem? path members, rest)
    | _ => none
  | '[' :: rest => do
    let (path, rest) ← wholeKey? rest
    match rest with
    | ']' :: rest => some (path, ← openTable? path members, rest)
    | _ => none
  | _ => do
    let (key, rest) ← wholeKey? chars
    match rest with
    | '=' :: rest => do
      let rest := skipSpaces rest
      let (value, rest) ← value? (2 * rest.length + 2) maxDepth rest
      some (path, ← within? (define? value key) path members, rest)
    | _ => none

def expressions? : (steps : Nat) → (path : List String) → Members → List Char →
    Option Members
  | 0, _, _, _ => none
  | steps + 1, path, members, chars =>
    match skipAll chars with
    | [] => some members
    | rest => do
      let (path, members, rest) ← expression? path members rest
      expressions? steps path members (← lineEnd? rest)

end BoundSql.Toml.Reader

namespace BoundSql.Toml

/-- The members of the document that a text holds.  A mark of the byte order before
it is skipped. -/
def read? (text : String) : Option Members :=
  let chars :=
    match text.toList with
    | '\uFEFF' :: rest => rest
    | chars => chars
  Reader.expressions? (chars.length + 1) [] [] chars

end BoundSql.Toml
