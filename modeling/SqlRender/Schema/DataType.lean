import SqlRender.Dialect.Basic
import SqlRender.Render.Piece

/-!
# Column types

The types of columns. A dialect may give a type a name of its own, and types with listed cases fall
back to text where there is no such type.
-/

namespace SqlRender

/-- The usual name of a kind of type. -/
def DataKind.standardName : DataKind → String
  | .smallint => "SMALLINT"
  | .int => "INTEGER"
  | .bigint => "BIGINT"
  | .real => "REAL"
  | .text => "TEXT"
  | .blob => "BLOB"
  | .custom => ""

/-- A column type: the dialect's own name, else the expression that is given, else the usual
name. -/
def Draft.dataType (g : Grammar) (kind : DataKind) (custom : Piece) : Draft :=
  match g.ownTypeName kind with
  | some name => .text name
  | none => if custom.isAbsent then .text kind.standardName else custom.draft

/-- The type of a column of text. -/
def Draft.textType (g : Grammar) : Draft :=
  .text ((g.ownTypeName .text).getD DataKind.text.standardName)

/-- A type with listed cases, which are written where they may stand in a column's type. -/
def Draft.enumDataType (g : Grammar) (cases : List Piece) : Draft :=
  match g.enumStyle with
  | .inline => .seq [.text "ENUM", .group (Piece.drafts cases)]
  | .named => .seq [.warn (.inlineEnum g.name), .textType g]
  | .unsupported => .textType g

end SqlRender
