import SqlRender.Dialect.Basic
import SqlRender.Expr.Wording

/-!
# Literals

A literal is a value that is written into the text of a query and not bound.
-/

namespace SqlRender

/-- The kinds of literals. -/
inductive LiteralKind where
  | string
  | numeric
  | boolean
  | null
  | all
  | default
  deriving DecidableEq, Repr

instance : Named LiteralKind where
  all := [.string, .numeric, .boolean, .null, .all, .default]
  name
    | .string => "string"
    | .numeric => "numeric"
    | .boolean => "boolean"
    | .null => "null"
    | .all => "all"
    | .default => "default"

/-- A literal; the last three kinds take no value. -/
structure Literal where
  kind : LiteralKind
  value : Outline := .value .null

namespace Literal

/-- A text is quoted, the text of a number is written as it is and truth values have the dialect's
words. -/
def draft (g : Grammar) (l : Literal) : Draft :=
  match l.kind with
  | .string => (Wording.ofOutline l.value).quoted g.quoteString
  | .numeric => (Wording.ofOutline l.value).written
  | .boolean => .text (g.booleanText l.value.truthy)
  | .null => .text "NULL"
  | .all => .text "*"
  | .default => .text g.defaultWord

/-- The fields of a literal. -/
def outline (l : Literal) : Outline :=
  .record "Literal" [("kind", .text (Named.name l.kind)), ("value", l.value)]

end Literal

end SqlRender
