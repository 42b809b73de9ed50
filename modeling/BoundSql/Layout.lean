import BoundSql.Text.Blank
/-!
# Layout

Laying out a statement puts each clause on a line of its own and indents what is
in parentheses around a subquery.  Texts between single quotes and comments up to
the end of their line are copied.

The scan goes from left to right.  Where a word starts, it looks for a comment or
a clause keyword; everything else is copied character by character.  The state
keeps what has been written, last character first.
-/

namespace BoundSql.Layout

/-- The keywords that start a line, each before those that it contains. -/
def keywords : List (List Char) :=
  ["LEFT JOIN", "RIGHT JOIN", "INNER JOIN", "CROSS JOIN", "JOIN", "FROM", "WHERE",
    "GROUP BY", "HAVING", "ORDER BY", "LIMIT", "SET", "VALUES"].map String.toList

/-- What follows a word at the start of a text, if the text starts with the word
and does not go on with it. -/
def afterWord? (word chars : List Char) : Option (List Char) :=
  if word.isPrefixOf chars then
    match chars.drop word.length with
    | [] => some []
    | next :: rest =>
      if Text.isBlank next || next == '(' then some (next :: rest) else none
  else
    none

def clause? (chars : List Char) : Option (List Char × List Char) :=
  keywords.findSome? fun keyword => (afterWord? keyword chars).map (keyword, ·)

def startsComment (chars : List Char) : Bool :=
  ['-', '-'].isPrefixOf chars

def startsSubquery (chars : List Char) : Bool :=
  (afterWord? "SELECT".toList chars).isSome

/-- What the scan is in. -/
inductive Mode where
  /-- Plain text, where a word can start or not. -/
  | plain (atStart : Bool)
  | quoted
  | comment
  /-- A clause keyword, of which so many characters are still to be copied. -/
  | keyword (left : Nat)
deriving DecidableEq

structure State where
  /-- What has been written, last character first. -/
  written : List Char := []
  /-- For each open parenthesis, last first, whether it holds a subquery. -/
  parentheses : List Bool := []
  mode : Mode := .plain true

namespace State

def push (state : State) (char : Char) : State :=
  { state with written := char :: state.written }

/-- Starts a new line at the indent of the open parentheses, unless a line has just
been started.  The spaces before it are dropped. -/
def breakLine (indent : Nat) (state : State) : State :=
  let kept := state.written.dropWhile (· == ' ')
  let ended :=
    match kept with
    | [] => []
    | '\n' :: _ => kept
    | _ => '\n' :: kept
  { state with
    written := List.replicate (indent * state.parentheses.length) ' ' ++ ended }

def openParenthesis (indent : Nat) (state : State) (rest : List Char) : State :=
  let subquery := startsSubquery rest
  let opened :=
    { state with
      written := '(' :: state.written
      parentheses := subquery :: state.parentheses
      mode := .plain true }
  if subquery then opened.breakLine indent else opened

/-- Closes a parenthesis, one around a subquery on a line of its own. -/
def closeParenthesis (indent : Nat) (state : State) : State :=
  let closed := { state with parentheses := state.parentheses.tail, mode := .plain false }
  let placed := if state.parentheses.head? == some true then closed.breakLine indent else closed
  placed.push ')'

def copy (indent : Nat) (state : State) (char : Char) (rest : List Char) : State :=
  match char with
  | '\x27' => { state.push char with mode := .quoted }
  | '(' => state.openParenthesis indent rest
  | ')' => state.closeParenthesis indent
  | other => { state.push other with mode := .plain (Text.isBlank other) }

/-- One step of the scan: the character and the text after it. -/
def step (indent : Nat) (state : State) (char : Char) (rest : List Char) : State :=
  match state.mode with
  | .quoted =>
    { state.push char with mode := if char = '\x27' then .plain false else .quoted }
  | .comment =>
    { state.push char with mode := if char = '\n' then .plain true else .comment }
  | .keyword left =>
    { state.push char with mode := if left ≤ 1 then .plain false else .keyword (left - 1) }
  | .plain false => state.copy indent char rest
  | .plain true =>
    if startsComment (char :: rest) then
      { state.push char with mode := .comment }
    else
      match clause? (char :: rest) with
      | some (word, _) =>
        { (state.breakLine indent).push char with mode := .keyword (word.length - 1) }
      | none => state.copy indent char rest

end State

def scan (indent : Nat) : State → List Char → State
  | state, [] => state
  | state, char :: rest => scan indent (state.step indent char rest) rest

/-- A statement laid out with so many spaces for each open parenthesis. -/
def format (indent : Nat) (sql : String) : String :=
  String.ofList (scan indent {} sql.toList).written.reverse

def fillSpaces (filler sql : String) : String :=
  String.ofList (sql.toList.flatMap fun char =>
    if char = ' ' then filler.toList else [char])

end BoundSql.Layout
