import SqlRender.Expr.Condition
import SqlRender.Expr.Equality
import SqlRender.Expr.Printer
import SqlRender.Query.Select

/-!
# Unions

Queries put together by operators between sets of rows.
-/

namespace SqlRender

namespace SetOperation

/-- The word for the operator. -/
def word : SetOperation → String
  | .union | .unionAll => "UNION"
  | .intersect | .intersectAll => "INTERSECT"
  | .except | .exceptAll => "EXCEPT"

/-- Whether duplicate rows are kept. -/
def keepsDuplicates : SetOperation → Bool
  | .unionAll | .intersectAll | .exceptAll => true
  | .union | .intersect | .except => false

/-- The feature that a dialect needs for the operator. -/
def feature : SetOperation → UnionFeature
  | .union => .union
  | .unionAll => .unionAll
  | .intersect => .intersect
  | .intersectAll => .intersectAll
  | .except => .except
  | .exceptAll => .exceptAll

/-- The operator as it is written. One that the dialect lacks is dropped with a warning, and the
database is left to refuse the statement. -/
def draft (g : Grammar) (o : SetOperation) : Draft :=
  if !g.unionFeatures.has o.feature then
    .warn (.noSetOperation g.name (o.word ++ if o.keepsDuplicates then " ALL" else ""))
  else
    .phrase (.text o.word ::
      if o.keepsDuplicates then [.text "ALL"]
      else Draft.wordIf (g.unionFeatures.has .explicitDistinct) "DISTINCT")

end SetOperation

/-- The operator between two queries. Anything else is looked up among the operators in vain, if it
can be looked up at all. -/
def Draft.unionJoiner (g : Grammar) (operation : Piece) : Draft :=
  match operation.shape with
  | .keyword (.setOperation o) => o.draft g
  | _ =>
    match operation.outline.digest with
    | .ok _ => .fail (.noSetOperation operation.outline.display)
    | .error name => .fail (.unhashable name)

/-- Queries with operators between them. Each further member is a pair of an operator and a query.
-/
structure Union (ε : Type) where
  initial : ε
  members : List (List ε) := []
  orderBy : List ε := []
  limit : Outline := .value .null
  offset : Outline := .value .null
  withTables : ε

namespace Union

/-- Apply a function to every part. -/
def map {α β : Type} (f : α → β) (u : Union α) : Union β where
  initial := f u.initial
  members := u.members.map (·.map f)
  orderBy := u.orderBy.map f
  limit := u.limit
  offset := u.offset
  withTables := f u.withTables

/-- A query as a member of a union. -/
def member (parenthesized : Bool) (query : Piece) : List Draft :=
  if parenthesized then [query.grouped] else query.part

/-- The statement. The ordering, limit and offset of the union are left out when there is no
operator. -/
def draft (g : Grammar) (u : Union Piece) : Draft :=
  if u.members.isEmpty then .phrase (u.withTables.part ++ u.initial.part)
  else
    match Piece.pairs u.members with
    | .error fault => .fail fault
    | .ok pairs =>
      let parenthesized := g.unionFeatures.has .parenthesizedMembers
      .phrase (u.withTables.part ++ member parenthesized u.initial ++
        (pairs.flatMap fun p => p.1.part ++ member parenthesized p.2) ++
        Draft.listClause "ORDER BY" (Piece.drafts u.orderBy) ++ limitOffset g u.limit u.offset)

/-- The fields by name. -/
def outline (u : Union Outline) : Outline :=
  .record "Union"
    [("initial_query", u.initial), ("unions", .tuple (u.members.map .tuple)),
      ("order_by", .tuple u.orderBy), ("limit", u.limit), ("offset", u.offset),
      ("table_expression_group", u.withTables)]

end Union

end SqlRender
