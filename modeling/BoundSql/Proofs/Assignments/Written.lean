import BoundSql.Compile
/-!
# Assignments and their placeholders

An INSERT or UPDATE is written in the order of its assignments, and each of its columns is
paired with the placeholder of its number.
-/

namespace BoundSql

namespace Binding

theorem bind_of_ok {First Second : Type} {binding : Binding First}
    {next : First → Binding Second} {parameters after : Parameters} {result : First}
    (given : binding parameters = .ok result after) :
    (binding >>= next) parameters = next result after := by
  change EStateM.bind binding next parameters = _
  rw [EStateM.bind, given]

theorem bind_of_error {First Second : Type} {binding : Binding First}
    {next : First → Binding Second} {parameters after : Parameters} {error : Error}
    (fails : binding parameters = .error error after) :
    (binding >>= next) parameters = .error error after := by
  change EStateM.bind binding next parameters = _
  rw [EStateM.bind, fails]

theorem ofExcept_of_ok {Result : Type} {outcome : Except Error Result} {result : Result}
    (given : outcome = .ok result) (parameters : Parameters) :
    (MonadExcept.ofExcept outcome : Binding Result) parameters = .ok result parameters := by
  rw [given]
  rfl

/-- Values that are bound one after the other have the placeholders that follow. -/
theorem mapM_value {Item : Type} (part : Item → Value) (text : Item → String → String)
    (items : List Item) (parameters : Parameters) :
    items.mapM (fun item => (do
        let token ← Binding.value (part item)
        return text item token : Binding String)) parameters =
      .ok ((items.zipIdx parameters.next).map fun (item, number) => text item (token number))
        (parameters.bindAll (items.map part)) := by
  induction items generalizing parameters with
  | nil => rfl
  | cons item rest ih =>
    have first : (do
        let token ← Binding.value (part item)
        return text item token : Binding String) parameters =
          .ok (text item (token parameters.next)) (parameters.bind (part item)).1 := rfl
    rw [List.mapM_cons, bind_of_ok first, bind_of_ok (ih _)]
    rfl

/-- The line of a comment before a statement. -/
def commentLine : Option String → String
  | none => ""
  | some comment => "-- " ++ comment ++ "\n"

theorem under_eq (comment : Option String) (text : Binding String) :
    under comment text = do return commentLine comment ++ (← text) := by
  cases comment with
  | none => simp [under, commentLine]
  | some comment => rfl

end Binding

namespace Assignment

/-- The parameters in which each assignment has the placeholder of its number. -/
def parameters (stored : List Assignment) : Parameters where
  next := stored.length + 1
  entries := (stored.zipIdx 1).map fun (kept, number) => (token number, kept.value.normalized)

theorem number_eq (first : Nat) (stored : List Assignment) :
    Parameters.number first ((stored.map value).map Value.normalized) =
      (stored.zipIdx first).map fun (kept, number) => (token number, kept.value.normalized) := by
  induction stored generalizing first with
  | nil => rfl
  | cons kept rest ih =>
    simp only [List.map_cons, Parameters.number, List.zipIdx_cons, ih]

theorem bindAll_values (stored : List Assignment) :
    ({} : Parameters).bindAll (stored.map value) = parameters stored := by
  have next := Parameters.next_bindAll {} (stored.map value)
  have entries := Parameters.entries_bindAll {} (stored.map value)
  rw [List.length_map, Nat.add_comm] at next
  rw [number_eq, List.nil_append] at entries
  cases bound : ({} : Parameters).bindAll (stored.map value)
  simp_all [parameters]

theorem mapM_tokens (stored : List Assignment) :
    stored.mapM (fun kept => Binding.value kept.value) {} =
      .ok ((stored.zipIdx 1).map fun (_, number) => token number) (parameters stored) := by
  have tokens := Binding.mapM_value value (fun _ token => token) stored {}
  rw [bindAll_values] at tokens
  simpa only [bind_pure] using tokens

theorem mapM_text (dialect : Dialect) (stored : List Assignment) :
    stored.mapM (text dialect) {} =
      .ok ((stored.zipIdx 1).map fun (kept, number) =>
          kept.column.text dialect ++ " = " ++ token number)
        (parameters stored) := by
  rw [← bindAll_values]
  exact Binding.mapM_value value (fun kept token => kept.column.text dialect ++ " = " ++ token)
    stored {}

end Assignment

namespace Statement

theorem compile_of_ok {statement : Statement} {dialect : Dialect} {sql : String}
    {parameters : Parameters} (written : statement.text dialect {} = .ok sql parameters) :
    statement.compile dialect = .ok { sql, parameters } := by
  simp only [compile, compileWith, Binding.outcome, EStateM.run, Bool.false_eq_true, if_false,
    written]

/-- What is still to be written decides on the result. -/
theorem compile_of_bind {statement : Statement} {dialect : Dialect} {rest : Binding String}
    {sql : String → String} {parameters : Parameters}
    (written : statement.text dialect {} = (do return sql (← rest)) parameters) :
    statement.compile dialect =
      match rest.outcome parameters with
      | (parameters, .ok rest) => .ok { sql := sql rest, parameters }
      | (_, .error error) => .error error := by
  simp only [compile, compileWith, Binding.outcome, EStateM.run, Bool.false_eq_true, if_false,
    written]
  cases outcome : rest parameters with
  | ok further after => rw [Binding.bind_of_ok outcome]; rfl
  | error error after => rw [Binding.bind_of_error outcome]

end Statement

/-- The text of an INSERT into a table whose text is given: the columns in the order of the
assignments, and the placeholders of the same numbers. -/
def Insert.numberedText (dialect : Dialect) (target : String) (insert : Insert) : String :=
  Binding.commentLine insert.comment ++ ("INSERT INTO " ++ target ++ " (" ++
    ", ".intercalate (insert.assignments.map fun kept => kept.column.text dialect) ++
    ") VALUES (" ++
    ", ".intercalate ((insert.assignments.zipIdx 1).map fun (_, number) => token number) ++ ")")

theorem Insert.compile_eq_ok {insert : Insert} {dialect : Dialect} {target : String}
    (assigns : insert.assignments ≠ []) (written : insert.table.text dialect = .ok target) :
    (Statement.insert insert).compile dialect = .ok
      { sql := insert.numberedText dialect target
        parameters := Assignment.parameters insert.assignments } := by
  refine Statement.compile_of_ok ?_
  rw [Statement.text, Insert.text, Binding.under_eq, if_neg (by simpa using assigns)]
  refine Binding.bind_of_ok ?_
  rw [Binding.bind_of_ok (Binding.ofExcept_of_ok written _),
    Binding.bind_of_ok (Assignment.mapM_tokens _), Insert.columns, List.map_map]
  rfl

/-- What an UPDATE holds after its assignments. -/
def Update.rest (dialect : Dialect) (update : Update) : Binding String := do
  let restriction ← Binding.restriction dialect update.filter
  let limit ← Binding.limit update.limit
  return restriction ++ limit

/-- The text of an UPDATE of a table whose text is given: each assignment with the placeholder
of its number, and then the rest. -/
def Update.numberedText (dialect : Dialect) (target : String) (update : Update)
    (rest : String) : String :=
  Binding.commentLine update.comment ++ ("UPDATE " ++ target ++ " SET " ++
    ", ".intercalate ((update.assignments.zipIdx 1).map fun (kept, number) =>
      kept.column.text dialect ++ " = " ++ token number) ++ rest)

/-- The rest of an UPDATE is written with the parameters that the assignments leave. -/
theorem Update.compile_eq {update : Update} {dialect : Dialect} {target : String}
    (assigns : update.assignments ≠ []) (written : update.table.text dialect = .ok target) :
    (Statement.update update).compile dialect =
      match (update.rest dialect).outcome (Assignment.parameters update.assignments) with
      | (parameters, .ok rest) =>
        .ok { sql := update.numberedText dialect target rest, parameters }
      | (_, .error error) => .error error := by
  refine Statement.compile_of_bind ?_
  rw [Statement.text, Update.text, Binding.under_eq, if_neg (by simpa using assigns), bind_assoc,
    Binding.bind_of_ok (Binding.ofExcept_of_ok written _), bind_assoc,
    Binding.bind_of_ok (Assignment.mapM_text dialect _)]
  simp only [Update.rest, Update.numberedText, bind_assoc, pure_bind, String.append_assoc]

/-- Without a condition and a limit nothing comes after the assignments. -/
theorem Update.compile_eq_ok {update : Update} {dialect : Dialect} {target : String}
    (assigns : update.assignments ≠ []) (written : update.table.text dialect = .ok target)
    (unrestricted : update.filter = none) (unlimited : update.limit = none) :
    (Statement.update update).compile dialect = .ok
      { sql := update.numberedText dialect target ""
        parameters := Assignment.parameters update.assignments } := by
  have rest : update.rest dialect = pure "" := by
    rw [Update.rest, unrestricted, unlimited]
    rfl
  rw [Update.compile_eq assigns written, rest]
  rfl

theorem Table.text_of_ne {table : Table} (named : table.name ≠ "") (dialect : Dialect) :
    ∃ target, table.text dialect = .ok target := by
  refine ⟨_, if_neg ?_⟩
  simpa using named

end BoundSql
