import BoundSql.Draft.Basic
import BoundSql.Column
import BoundSql.Text.Blank
/-!
# Names in a draft

Every identifier is quoted, except `*` and what has an opening parenthesis in it,
which is taken for an expression.  A name with points is quoted part by part.
-/

namespace BoundSql

namespace Piece

def ofIdentifier (identifier : String) : Piece :=
  if identifier = wildcard ∨ isExpression identifier then .text identifier
  else .name identifier

def ofParts : List String → List Piece
  | [] => []
  | [part] => [ofIdentifier part]
  | part :: rest => ofIdentifier part :: .text "." :: ofParts rest

def ofDotted (name : String) : List Piece :=
  if isExpression name then [.text name]
  else ofParts ((Text.split (· == '.') name.toList).map String.ofList)

def ofAlias : Option String → List Piece
  | none => []
  | some aliasName => [.text " AS ", ofIdentifier aliasName]

end Piece

def Table.pieces (table : Table) : List Piece :=
  Piece.ofDotted table.fullName ++ Piece.ofAlias table.aliasName

/-- What follows where a statement introduces a table, which must have a name. -/
def Draft.withTable (table : Table) (body : List Piece → Draft) : Draft :=
  if table.name.isEmpty then .fail .tableName else body table.pieces

namespace Column

def pieces (column : Column) : List Piece :=
  match column.table with
  | some table =>
    Piece.ofDotted table.qualifier ++ [.text ".", Piece.ofIdentifier column.name]
  | none => [Piece.ofIdentifier column.name]

def reference (column : Column) : Draft :=
  { pieces := column.pieces }

def selected (column : Column) : Draft :=
  { pieces := column.pieces ++
      if column.isWildcard then [] else Piece.ofAlias column.aliasName }

end Column

end BoundSql
