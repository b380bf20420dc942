import SqlRender.Dialect.Basic
import SqlRender.Expr.Flag
import SqlRender.Render.Piece

/-!
# Removal of triggers

The table and the behavior are written only where the dialect takes them.
-/

namespace SqlRender

/-- The removal of a trigger. -/
structure DropTrigger (ε : Type) where
  name : ε
  table : ε
  ifExists : Flag := .bool false
  behavior : ε

namespace DropTrigger

/-- Apply a function to every part. -/
def map {α β : Type} (f : α → β) (d : DropTrigger α) : DropTrigger β where
  name := f d.name
  table := f d.table
  ifExists := d.ifExists
  behavior := f d.behavior

/-- The statement. -/
def draft (g : Grammar) (d : DropTrigger Piece) : Draft :=
  .phrase (.text "DROP TRIGGER" ::
    Draft.wordIf (d.ifExists.holds && g.supportsIfExists) "IF EXISTS" ++ d.name.part ++
    (if g.triggers.drop.has .tableName then d.table.clause "ON" else []) ++
    if g.triggers.drop.has .behavior then d.behavior.part else [])

/-- The fields by name. -/
def outline (d : DropTrigger Outline) : Outline :=
  .record "DropTrigger"
    [("name", d.name), ("table", d.table), ("if_exists", d.ifExists.outline),
      ("behavior", d.behavior)]

end DropTrigger

end SqlRender
