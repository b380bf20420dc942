import SqlRender.Dialect.Basic
import SqlRender.Expr.Flag
import SqlRender.Render.Piece

/-!
# Indexes

The creation and removal of indexes.
-/

namespace SqlRender

/-- The creation of an index, which always has a name. -/
structure CreateIndex (ε : Type) where
  name : ε
  table : ε
  columns : List ε := []
  modifier : ε
  predicate : ε

namespace CreateIndex

/-- Apply a function to every part. -/
def map {α β : Type} (f : α → β) (c : CreateIndex α) : CreateIndex β where
  name := f c.name
  table := f c.table
  columns := c.columns.map f
  modifier := f c.modifier
  predicate := f c.predicate

/-- The statement. -/
def draft (c : CreateIndex Piece) : Draft :=
  .phrase (.text "CREATE" :: c.modifier.part ++ .text "INDEX" :: c.name.part ++ .text "ON" ::
    c.table.part ++ [.group (Piece.drafts c.columns)] ++ c.predicate.clause "WHERE")

/-- The fields by name. -/
def outline (c : CreateIndex Outline) : Outline :=
  .record "CreateIndex"
    [("name", c.name), ("table", c.table), ("columns", .tuple c.columns),
      ("modifier", c.modifier), ("predicate", c.predicate)]

end CreateIndex

/-- The removal of an index. -/
structure DropIndex (ε : Type) where
  name : ε
  ifExists : Flag := .bool false
  owner : ε
  behavior : ε

namespace DropIndex

/-- Apply a function to every part. -/
def map {α β : Type} (f : α → β) (d : DropIndex α) : DropIndex β where
  name := f d.name
  ifExists := d.ifExists
  owner := f d.owner
  behavior := f d.behavior

/-- The statement. -/
def draft (g : Grammar) (d : DropIndex Piece) : Draft :=
  .phrase (.text "DROP INDEX" ::
    Draft.wordIf (d.ifExists.holds && g.supportsIfExists) "IF EXISTS" ++ d.name.part ++ d.owner.clause "ON" ++
    if g.supportsDropBehavior then d.behavior.part else [])

/-- The fields by name. -/
def outline (d : DropIndex Outline) : Outline :=
  .record "DropIndex"
    [("name", d.name), ("if_exists", d.ifExists.outline), ("owning_object", d.owner),
      ("behavior", d.behavior)]

end DropIndex

end SqlRender
