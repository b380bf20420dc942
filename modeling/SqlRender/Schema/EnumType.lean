import SqlRender.Dialect.Basic
import SqlRender.Render.Piece

/-!
# Named types with listed cases

The creation, extension and removal of types that stand on their own. Where a dialect has no such
types the statements are written all the same, with a warning.
-/

namespace SqlRender

/-- A statement about a named type, with the warning that goes before it. -/
def Draft.namedEnum (g : Grammar) (verb : String) (parts : List Draft) : Draft :=
  let statement : Draft := .phrase (.text verb :: parts)
  if g.enumStyle = .named then statement
  else .seq [.warn (.noNamedEnum g.name verb), statement]

/-- The creation of a type. -/
def Draft.createEnum (g : Grammar) (name : Piece) (values : List Piece) : Draft :=
  .namedEnum g "CREATE TYPE" (name.part ++ [.text "AS ENUM", .group (Piece.drafts values)])

/-- The extension of a type by a value. -/
def Draft.alterEnum (g : Grammar) (name value : Piece) : Draft :=
  .namedEnum g "ALTER TYPE" (name.part ++ value.clause "ADD VALUE")

/-- The removal of a type. -/
def Draft.dropEnum (g : Grammar) (name : Piece) (ifExists cascade : Bool) : Draft :=
  .namedEnum g "DROP TYPE"
    (wordIf ifExists "IF EXISTS" ++ name.part ++ wordIf cascade "CASCADE")

end SqlRender
