import SqlRender.Dialect.Basic
import SqlRender.Render.Piece

/-!
# Columns

Definitions of columns, and new types for columns that exist.
-/

namespace SqlRender

/-- A column of a new table: the name, the type and the constraints. -/
def Draft.columnDefinition (column dataType : Piece) (constraints : List Piece) : Draft :=
  .phrase (column.part ++ dataType.part ++
    if constraints.isEmpty then [] else [.join " " (Piece.drafts constraints)])

/-- A new type for a column, with the word before it that the dialect asks for. -/
def Draft.alterColumnType (g : Grammar) (column dataType : Piece) : Draft :=
  .phrase (column.part ++ g.alterTable.typeKeyword.toList.map .text ++ dataType.part)

end SqlRender
