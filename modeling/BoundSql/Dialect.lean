import BoundSql.Text.Quoted
/-!
# Dialects

A dialect decides how identifiers are quoted, and nothing else.
-/

namespace BoundSql

structure Dialect where
  name : String
  quote : Option Char

namespace Dialect

def generic : Dialect := ⟨"generic", none⟩

def mysql : Dialect := ⟨"mysql", some '\x60'⟩

def quoteIdentifier (dialect : Dialect) (identifier : String) : String :=
  match dialect.quote with
  | none => identifier
  | some quote => Text.Quoted.encode quote identifier

end Dialect

inductive DialectChoice where
  | generic
  | mysql
deriving DecidableEq

def DialectChoice.dialect : DialectChoice → Dialect
  | .generic => .generic
  | .mysql => .mysql

end BoundSql
