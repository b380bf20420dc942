import SqlRender.Expr.Flag
import SqlRender.Schema.Constraint

/-!
# Tables

The creation, alteration and removal of tables.
-/

namespace SqlRender

/-- The creation of a table, from definitions or from a query. -/
structure CreateTable (ε : Type) where
  table : ε
  columns : List ε := []
  tableConstraints : List ε := []
  temporary : Flag := .bool false
  ifNotExists : Flag := .bool false
  asQuery : ε

namespace CreateTable

/-- Apply a function to every part. -/
def map {α β : Type} (f : α → β) (c : CreateTable α) : CreateTable β where
  table := f c.table
  columns := c.columns.map f
  tableConstraints := c.tableConstraints.map f
  temporary := c.temporary
  ifNotExists := c.ifNotExists
  asQuery := f c.asQuery

/-- The definitions of columns and constraints. -/
def definitions {ε : Type} (c : CreateTable ε) : List ε :=
  c.columns ++ c.tableConstraints

/-- The statement. -/
def draft (g : Grammar) (c : CreateTable Piece) : Draft :=
  let unguarded := c.ifNotExists.holds && !g.supportsIfExists
  let statement : Draft :=
    .phrase (.text "CREATE" :: Draft.wordIf c.temporary.holds "TEMPORARY" ++ .text "TABLE" ::
      Draft.wordIf (c.ifNotExists.holds && g.supportsIfExists) "IF NOT EXISTS" ++ c.table.part ++
      (if c.definitions.isEmpty then [] else [.group (Piece.drafts c.definitions)]) ++
      c.asQuery.clause "AS")
  if unguarded then .seq [.warn (.noIfNotExists g.name), statement] else statement

/-- The fields by name. -/
def outline (c : CreateTable Outline) : Outline :=
  .record "CreateTable"
    [("table", c.table), ("columns", .tuple c.columns),
      ("table_constraints", .tuple c.tableConstraints), ("temporary", c.temporary.outline),
      ("if_not_exists", c.ifNotExists.outline), ("as_query", c.asQuery)]

end CreateTable

/-- The verb for columns that are modified where the dialect has none. The database refuses it. -/
def fallbackModifyVerb : String :=
  "ALTER COLUMN"

/-- The verb for columns that are modified. -/
def AlterTableSyntax.modifyVerbOrFallback (s : AlterTableSyntax) : String :=
  match s.modifyVerb with
  | some verb => if verb.isEmpty then fallbackModifyVerb else verb
  | none => fallbackModifyVerb

/-- The alteration of a table. -/
structure AlterTable (ε : Type) where
  table : ε
  renameTo : ε
  addColumns : List ε := []
  modifyColumns : List ε := []
  dropColumns : List ε := []
  addConstraints : List ε := []
  dropConstraints : List ε := []

namespace AlterTable

/-- Apply a function to every part. -/
def map {α β : Type} (f : α → β) (a : AlterTable α) : AlterTable β where
  table := f a.table
  renameTo := f a.renameTo
  addColumns := a.addColumns.map f
  modifyColumns := a.modifyColumns.map f
  dropColumns := a.dropColumns.map f
  addConstraints := a.addConstraints.map f
  dropConstraints := a.dropConstraints.map f

/-- One alteration: a verb and what it applies to. -/
def alteration (verb : String) (definition : List Draft) : Draft :=
  .phrase (.text verb :: definition)

/-- The alterations in the order in which they are written: additions, removals, modifications. -/
def alterations (g : Grammar) (a : AlterTable Piece) : List Draft :=
  (a.addColumns ++ a.addConstraints).map (fun p => alteration "ADD" p.part) ++
    a.dropColumns.map (fun p => alteration "DROP" p.part) ++
    a.dropConstraints.map (fun p => alteration "DROP CONSTRAINT" (p.constraintName g)) ++
    a.modifyColumns.map fun p => alteration g.alterTable.modifyVerbOrFallback p.part

/-- The warnings for alterations that the database does not take. -/
def warnings (g : Grammar) (a : AlterTable Piece) : List Warning :=
  (if !g.alterTable.allowsBatch && (a.alterations g).length > 1 then
    [Warning.singleAlteration g.name] else []) ++
  (if g.alterTable.modifyVerb.isNone && !a.modifyColumns.isEmpty then
    [Warning.noColumnModification g.name] else [])

/-- The statement. Every alteration is written, whether or not the database takes it. -/
def draft (g : Grammar) (a : AlterTable Piece) : Draft :=
  match a.dropConstraints.findSome? (Piece.constraintNameFault? g) with
  | some fault => .fail fault
  | none =>
    .seq ((a.warnings g).map .warn ++
      [.phrase (.text "ALTER TABLE" :: a.table.part ++ a.renameTo.clause "RENAME TO" ++
        [.join ", " (a.alterations g)])])

/-- The fields by name. -/
def outline (a : AlterTable Outline) : Outline :=
  .record "AlterTable"
    [("table", a.table), ("rename_to", a.renameTo), ("add_columns", .tuple a.addColumns),
      ("modify_columns", .tuple a.modifyColumns), ("drop_columns", .tuple a.dropColumns),
      ("add_table_constraints", .tuple a.addConstraints),
      ("drop_table_constraints", .tuple a.dropConstraints)]

end AlterTable

/-- The removal of a table. -/
structure DropTable (ε : Type) where
  table : ε
  ifExists : Flag := .bool false
  behavior : ε
  temporary : Flag := .bool false

namespace DropTable

/-- Apply a function to every part. -/
def map {α β : Type} (f : α → β) (d : DropTable α) : DropTable β where
  table := f d.table
  ifExists := d.ifExists
  behavior := f d.behavior
  temporary := d.temporary

/-- The statement. -/
def draft (g : Grammar) (d : DropTable Piece) : Draft :=
  .phrase (.text "DROP" :: Draft.wordIf d.temporary.holds "TEMPORARY" ++ .text "TABLE" ::
    Draft.wordIf (d.ifExists.holds && g.supportsIfExists) "IF EXISTS" ++ d.table.part ++
    if g.supportsDropBehavior then d.behavior.part else [])

/-- The fields by name. -/
def outline (d : DropTable Outline) : Outline :=
  .record "DropTable"
    [("table", d.table), ("if_exists", d.ifExists.outline), ("behavior", d.behavior),
      ("temporary", d.temporary.outline)]

end DropTable

end SqlRender
