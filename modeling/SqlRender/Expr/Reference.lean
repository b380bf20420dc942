import SqlRender.Dialect.Basic
import SqlRender.Expr.Wording
import SqlRender.Render.Piece

/-!
# References

Columns and tables, values inside JSON columns, and the values of rows that could not be inserted.
-/

namespace SqlRender

/-- A name, which may be qualified by what it belongs to: the owner and a point, if there is one,
and the name. -/
def Draft.qualified (owner name : Piece) : Draft :=
  .seq ((if owner.isAbsent then [] else [owner.draft, .text "."]) ++ [name.draft])

/-- An expression under another name. -/
def Draft.labelled (expression label : Piece) : Draft :=
  .seq [expression.draft, .text " AS ", label.draft]

/-- The value that an insertion tried to give a column, in the words of the dialect's upserts if it
has any. -/
def Draft.excludedColumn (g : Grammar) (name : Piece) : Draft :=
  match g.upsertStyle with
  | .onConflict => .seq [.text "EXCLUDED.", name.draft]
  | .onDuplicateKey => .seq [.text "VALUES", .group [name.draft]]
  | .unsupported => .empty

namespace JsonAccess

/-- The arrows and keys of a path. The last key has the arrow that gives a text. -/
def arrows (g : Grammar) : List Wording → List Draft
  | [] => []
  | [key] => [.text "->>", key.quoted g.quoteString]
  | key :: keys => .text "->" :: key.quoted g.quoteString :: arrows g keys

/-- A path as a single text. -/
def path (g : Grammar) (keys : List String) : Draft :=
  .text (g.quoteString ("$." ++ ".".intercalate keys))

/-- The value at a path inside a column. Where the path is a single text a key that is no text is a
fault before anything is written. -/
def draft (g : Grammar) (column : Draft) (keys : List Wording) : JsonAccess → Draft
  | .extractCall =>
    match Wording.texts 0 keys with
    | .ok keys => .seq [.text "json_extract", .group [column, path g keys]]
    | .error fault => .fail fault
  | .pathArrow =>
    match Wording.texts 0 keys with
    | .ok keys => .group [.join "" [column, .text "->>", path g keys]]
    | .error fault => .fail fault
  | .keyArrows => .group [.join "" (column :: arrows g keys)]

end JsonAccess

/-- The value at a path as the dialect reaches it, or nothing if it cannot. -/
def Draft.subpath (g : Grammar) (column : Piece) (path : List Wording) : Draft :=
  if path.isEmpty then .fail (.broken .subpathNotEmpty)
  else
    match g.jsonAccess with
    | some access => access.draft g column.draft path
    | none => .empty

end SqlRender
