import SqlRender.Dialect.Basic
import SqlRender.Expr.Flag
import SqlRender.Expr.Printer
import SqlRender.Render.Piece

/-!
# Selection

Queries and their clauses. A clause that has nothing to say is left out with its keyword.
-/

namespace SqlRender

/-- The clause that a dialect asks for a lock on rows with, if it has any. -/
def LockingClause.draft (g : Grammar) : LockingClause → Draft
  | .share => .text (g.sharedLock.getD "")
  | .update => .text (g.exclusiveLock.getD "")

/-- A list of expressions that rows are told apart by, or nothing if it is empty. -/
def Draft.distinct (args : List Piece) : Draft :=
  if args.isEmpty then .empty else .phrase [.text "DISTINCT", .group (Piece.drafts args)]

/-- A further table of a query and the condition that its rows are joined on. -/
def Draft.tableJoin (method table condition : Piece) : Draft :=
  .phrase (method.part ++ .text "JOIN" :: table.part ++ condition.clause "ON")

/-- How many rows are given and how many are skipped; a null stands for no such clause. An offset
without a limit gets the limit that the dialect needs there. -/
def limitOffset (g : Grammar) (limit offset : Outline) : List Draft :=
  let given (o : Outline) : Option String :=
    match o with
    | .value .null => none
    | o => some o.display
  (match given limit with
    | some n => [.text "LIMIT", .text n]
    | none =>
      match given offset, g.offsetWithoutLimit with
      | some _, some n => [.text "LIMIT", .text n]
      | _, _ => []) ++
  (match given offset with
    | some n => [.text "OFFSET", .text n]
    | none => [])

/-- A query. -/
structure Select (ε : Type) where
  columns : List ε := []
  tables : List ε := []
  distinct : Flag := .bool false
  joins : List ε := []
  predicate : ε
  groupBy : List ε := []
  having : ε
  orderBy : List ε := []
  limit : Outline := .value .null
  offset : Outline := .value .null
  locking : ε

namespace Select

/-- Apply a function to every part. -/
def map {α β : Type} (f : α → β) (s : Select α) : Select β where
  columns := s.columns.map f
  tables := s.tables.map f
  distinct := s.distinct
  joins := s.joins.map f
  predicate := f s.predicate
  groupBy := s.groupBy.map f
  having := f s.having
  orderBy := s.orderBy.map f
  limit := s.limit
  offset := s.offset
  locking := f s.locking

/-- The statement. -/
def draft (g : Grammar) (s : Select Piece) : Draft :=
  .phrase (.text "SELECT" :: Draft.wordIf s.distinct.holds "DISTINCT" ++
    [.join ", " (Piece.drafts s.columns)] ++
    Draft.listClause "FROM" (Piece.drafts s.tables) ++
    [.join " " (Piece.drafts s.joins)] ++
    s.predicate.clause "WHERE" ++
    Draft.listClause "GROUP BY" (Piece.drafts s.groupBy) ++
    s.having.clause "HAVING" ++
    Draft.listClause "ORDER BY" (Piece.drafts s.orderBy) ++
    limitOffset g s.limit s.offset ++
    s.locking.part)

/-- The fields by name. -/
def outline (s : Select Outline) : Outline :=
  .record "Select"
    [("columns", .tuple s.columns), ("tables", .tuple s.tables), ("distinct", s.distinct.outline),
      ("joins", .tuple s.joins), ("predicate", s.predicate), ("group_by", .tuple s.groupBy),
      ("having", s.having), ("order_by", .tuple s.orderBy), ("limit", s.limit),
      ("offset", s.offset), ("locking_clause", s.locking)]

end Select

end SqlRender
