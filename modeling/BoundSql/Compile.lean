import BoundSql.Binding.Statement
/-!
# Compiling

To compile a statement is to write it, on from parameters that are bound already or
from one.  The values of a statement that cannot be compiled stay bound as far as
the writing came.
-/

namespace BoundSql

structure Compiled where
  sql : String
  parameters : Parameters

def Compiled.equals (left right : Compiled) : Bool :=
  left.sql == right.sql && left.parameters.equals right.parameters

namespace Statement

/-- Compiles a statement with the given parameters, either on from them or after
dropping them. -/
def compileWith (statement : Statement) (dialect : Dialect) (parameters : Parameters)
    (continues : Bool) : Parameters × Except Error String :=
  (statement.text dialect).outcome (if continues then parameters else {})

def compile (statement : Statement) (dialect : Dialect) : Except Error Compiled :=
  match statement.compileWith dialect {} false with
  | (parameters, .ok sql) => .ok { sql, parameters }
  | (_, .error error) => .error error

/-- The statement as text for its reader: in the generic dialect, or the message of
what is wrong with it. -/
def display (statement : Statement) : String :=
  match statement.compile .generic with
  | .ok compiled => compiled.sql
  | .error error => error.message

end Statement

end BoundSql
