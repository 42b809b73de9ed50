import BoundSql.Condition.Clause
import BoundSql.Parameters
/-!
# Binding

A statement is written from left to right.  Each value on the way is bound to the
next placeholder, whose token stands for it in the text.  What is lacking ends the
writing; the values bound before that stay bound.
-/

namespace BoundSql

/-- A computation that binds values on its way to a result or an error. -/
abbrev Binding := EStateM Error Parameters

namespace Binding

/-- Binds a value, and gives the token that stands for it. -/
def value (value : Value) : Binding String :=
  modifyGet fun parameters => (parameters.bind value).swap

def lack {α : Type} (lack : Lack) : Binding α :=
  throw (.missingContext lack)

/-- The parameters after a computation, and its result or error. -/
def outcome {α : Type} (binding : Binding α) (parameters : Parameters) :
    Parameters × Except Error α :=
  match binding.run parameters with
  | .ok result parameters => (parameters, .ok result)
  | .error error parameters => (parameters, .error error)

def ledBy (lead text : String) : String :=
  if text.isEmpty then "" else lead ++ text

def under (comment : Option String) (text : Binding String) : Binding String :=
  match comment with
  | none => text
  | some comment => return "-- " ++ comment ++ "\n" ++ (← text)

/-- The text of conditions that hold together.  Of several, those not connected by
AND stand between parentheses. -/
def conjoined : List (Conjunction × String) → String
  | [] => ""
  | [(_, text)] => text
  | several =>
    " AND ".intercalate (several.map fun (conjunction, text) =>
      if conjunction = .and then text else "(" ++ text ++ ")")

/-- Writes conditions that hold together, of which those without text say
nothing. -/
def allOf (conditions : List (Conjunction × Binding String)) : Binding String := do
  let written ← conditions.mapM fun (conjunction, text) => return (conjunction, ← text)
  return conjoined (written.filter fun (_, text) => !text.isEmpty)

end Binding

end BoundSql
