import SqlRender.Dialect.Basic
import SqlRender.Render.Piece

/-!
# Common table expressions

Queries with a name, which a statement may use as tables.
-/

namespace SqlRender

/-- A query with a name and names for its columns. The query is put in parentheses unless it has
some. -/
def Draft.commonTable (label query : Piece) (columns : List Piece) : Draft :=
  let body : List Draft :=
    match query.shape with
    | .bracketed => query.part
    | _ => [query.grouped]
  .phrase (label.part ++ (if columns.isEmpty then [] else [.group (Piece.drafts columns)]) ++
    .text "AS" :: body)

/-- Whether a part is a common table that may refer to itself. -/
def Piece.isRecursiveTable (p : Piece) : Bool :=
  match p.shape with
  | .recursiveTable => true
  | _ => false

/-- The common tables of a statement, or nothing if there are none. -/
def Draft.commonTables (tables : List Piece) : Draft :=
  if tables.isEmpty then .empty
  else
    .phrase (.text "WITH" :: wordIf (tables.any Piece.isRecursiveTable) "RECURSIVE" ++
      [.join ", " (Piece.drafts tables)])

end SqlRender
