import SqlRender.Expr.Outline
import SqlRender.Query.Upsert

/-!
# Changes

Insertion, update and deletion of rows.
-/

namespace SqlRender

/-- The columns that a statement gives back of the rows it changed. Where the dialect has no such
clause it is dropped with a warning. -/
def Draft.returning (g : Grammar) (columns : List Piece) : Draft :=
  if columns.isEmpty then .empty
  else if g.supportsReturning then
    .phrase [.text "RETURNING", .join ", " (Piece.drafts columns)]
  else .warn (.noReturning g.name)

/-- Whether the insertion has the early word that its strategy asks for. -/
def Piece.ignoresEarly (p : Piece) : Except Fault Bool :=
  match p.shape with
  | .absent => .ok false
  | .conflictStrategy ignoresEarly => ignoresEarly
  | _ => .error (.lacks p.typeName .modifying)

/-- An insertion of rows of values or of the rows of a query. -/
structure Insert (ε : Type) where
  table : ε
  columns : List ε := []
  rows : List (List ε) := []
  query : ε
  strategy : ε
  returning : ε

namespace Insert

/-- Apply a function to every part. -/
def map {α β : Type} (f : α → β) (i : Insert α) : Insert β where
  table := f i.table
  columns := i.columns.map f
  rows := i.rows.map (·.map f)
  query := f i.query
  strategy := f i.strategy
  returning := f i.returning

/-- The rows that are inserted. -/
def source (i : Insert Piece) : List Draft :=
  if i.rows.isEmpty then i.query.part
  else [.text "VALUES", .join ", " (i.rows.map fun row => .group (Piece.drafts row))]

/-- The statement. -/
def draft (i : Insert Piece) : Draft :=
  match i.strategy.ignoresEarly with
  | .error fault => .fail fault
  | .ok ignores =>
    .phrase (.text "INSERT" :: Draft.wordIf ignores "IGNORE" ++ .text "INTO" :: i.table.part ++
      (if i.columns.isEmpty then [] else [.group (Piece.drafts i.columns)]) ++
      i.source ++ i.strategy.part ++ i.returning.part)

/-- The fields by name. -/
def outline (i : Insert Outline) : Outline :=
  .record "Insert"
    [("table", i.table), ("columns", .tuple i.columns), ("values", .tuple (i.rows.map .tuple)),
      ("value_query", i.query), ("conflict_strategy", i.strategy), ("returning", i.returning)]

end Insert

/-- An update of rows. -/
structure Update (ε : Type) where
  table : ε
  values : List ε := []
  predicate : ε
  returning : ε
  withTables : ε

namespace Update

/-- Apply a function to every part. -/
def map {α β : Type} (f : α → β) (u : Update α) : Update β where
  table := f u.table
  values := u.values.map f
  predicate := f u.predicate
  returning := f u.returning
  withTables := f u.withTables

/-- The statement. -/
def draft (u : Update Piece) : Draft :=
  .phrase (u.withTables.part ++ .text "UPDATE" :: u.table.part ++
    Draft.listClause "SET" (Piece.drafts u.values) ++ u.predicate.clause "WHERE" ++
    u.returning.part)

/-- The fields by name. -/
def outline (u : Update Outline) : Outline :=
  .record "Update"
    [("table", u.table), ("values", .tuple u.values), ("predicate", u.predicate),
      ("returning", u.returning), ("table_expression_group", u.withTables)]

end Update

/-- A deletion of rows, of all of them if there is no predicate. -/
structure Delete (ε : Type) where
  table : ε
  predicate : ε
  returning : ε
  withTables : ε

namespace Delete

/-- Apply a function to every part. -/
def map {α β : Type} (f : α → β) (d : Delete α) : Delete β where
  table := f d.table
  predicate := f d.predicate
  returning := f d.returning
  withTables := f d.withTables

/-- The statement. -/
def draft (d : Delete Piece) : Draft :=
  .phrase (d.withTables.part ++ .text "DELETE FROM" :: d.table.part ++
    d.predicate.clause "WHERE" ++ d.returning.part)

/-- The fields by name. -/
def outline (d : Delete Outline) : Outline :=
  .record "Delete"
    [("table", d.table), ("predicate", d.predicate), ("returning", d.returning),
      ("table_expression_group", d.withTables)]

end Delete

end SqlRender
