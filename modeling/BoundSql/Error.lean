import BoundSql.Kind
/-!
# Errors

What can go wrong while a statement is put together, compiled or configured.  An
error names its cause; the wording is in `Error.message`.
-/

namespace BoundSql

/-- What a statement lacks when it cannot be compiled or enumerated. -/
inductive Lack where
  | selectTable
  | joinTable
  | tableName
  | enumeratedTable
  | joinedTable
  | insertedColumns (table : String)
  | updatedValues (table : String)
  | members (kind : Kind)
deriving DecidableEq

/-- The part that a kind of statement is asked for but does not have. -/
inductive Part where
  | table
  | filter
deriving DecidableEq

inductive ConfigFault where
  | unreadable
  | indentOutOfRange (indent : Nat)
deriving DecidableEq

inductive Error where
  | invalidConjunction (text : String)
  | unsupported (kind : Kind) (part : Part)
  | missingContext (lack : Lack)
  | invalidDirection (text : String)
  | invalidAlias (column aliasName : String)
  | config (fault : ConfigFault)
deriving DecidableEq

def maxIndent : Nat := 16

def Lack.message : Lack → String
  | .selectTable => "cannot compile a SELECT without a table"
  | .joinTable => "cannot compile a JOIN without a table"
  | .tableName => "table name must not be empty"
  | .enumeratedTable => "cannot enumerate columns of a SELECT without a table"
  | .joinedTable => "cannot join a SELECT without a table"
  | .insertedColumns table => "cannot compile an INSERT into '" ++ table ++ "' without columns"
  | .updatedValues table => "cannot compile an UPDATE of '" ++ table ++ "' without values"
  | .members kind => "cannot compile " ++ kind.name ++ " without member SELECTs"

def Part.name : Part → String
  | .table => "table"
  | .filter => "where"

def ConfigFault.message : ConfigFault → String
  | .unreadable => "the document cannot be read"
  | .indentOutOfRange indent =>
    "format.indent must be between 1 and " ++ toString maxIndent ++ ", got " ++ toString indent

namespace Error

def message : Error → String
  | .invalidConjunction text =>
    "Invalid conjunction: '" ++ text ++ "' (expected AND, OR, AND NOT or OR NOT)"
  | .unsupported kind part =>
    "Unsupported operation: " ++ kind.name ++ " has no " ++ part.name
  | .missingContext lack => "Missing context: " ++ lack.message
  | .invalidDirection text =>
    "Invalid order direction: '" ++ text ++ "' (expected ASC or DESC)"
  | .invalidAlias column aliasName =>
    "Invalid alias '" ++ aliasName ++ "' for column '" ++ column ++
      "': wildcard columns cannot be aliased"
  | .config fault => "Config error: " ++ fault.message

def isMissingContext : Error → Bool
  | .missingContext _ => true
  | _ => false

def isUnsupported : Error → Bool
  | .unsupported _ _ => true
  | _ => false

end Error

end BoundSql
