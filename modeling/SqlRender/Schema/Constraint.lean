import SqlRender.Dialect.Basic
import SqlRender.Render.Piece

/-!
# Constraints

The constraints of columns and of whole tables, foreign keys, and names for constraints.
-/

namespace SqlRender

/-- The kinds of constraints of a column. -/
inductive ColumnConstraintKind where
  | primaryKey
  | notNull
  | unique
  | check
  | collate
  | default
  | foreignKey
  | generated
  | custom
  deriving DecidableEq, Repr

instance : Named ColumnConstraintKind where
  all := [.primaryKey, .notNull, .unique, .check, .collate, .default, .foreignKey, .generated,
    .custom]
  name
    | .primaryKey => "primary_key"
    | .notNull => "not_null"
    | .unique => "unique"
    | .check => "check"
    | .collate => "collate"
    | .default => "default"
    | .foreignKey => "foreign_key"
    | .generated => "generated"
    | .custom => "custom"

/-- A primary key, with what the dialect needs so that it is filled in by itself. -/
def Draft.primaryKey (g : Grammar) (autoIncrement : Bool) : Draft :=
  if !autoIncrement then .text "PRIMARY KEY"
  else if !g.supportsAutoIncrement then
    .seq [.warn (.noAutoIncrement g.name), .text "PRIMARY KEY"]
  else
    match g.autoIncrementFunction with
    | some function => .text (g.defaultWord ++ " " ++ function ++ " PRIMARY KEY")
    | none => .text ("PRIMARY KEY " ++ g.autoIncrementClause)

/-- A constraint of one column. -/
def Draft.columnConstraint (g : Grammar) (kind : ColumnConstraintKind) (expression : Piece)
    (autoIncrement : Bool) : Draft :=
  match kind with
  | .primaryKey => .primaryKey g autoIncrement
  | .notNull => .text "NOT NULL"
  | .unique => .text "UNIQUE"
  | .check => .seq [.text "CHECK ", expression.grouped]
  | .collate => .seq [.text "COLLATE ", expression.draft]
  | .default => .seq [.text "DEFAULT ", expression.draft]
  | .generated => .seq [.text "GENERATED ALWAYS AS ", expression.grouped, .text " STORED"]
  | .foreignKey => expression.draft
  | .custom => expression.draft

/-- The kinds of constraints of a table. -/
inductive TableConstraintKind where
  | primaryKey
  | unique
  | check
  | foreignKey
  deriving DecidableEq, Repr

instance : Named TableConstraintKind where
  all := [.primaryKey, .unique, .check, .foreignKey]
  name
    | .primaryKey => "primary_key"
    | .unique => "unique"
    | .check => "check"
    | .foreignKey => "foreign_key"

/-- A constraint of several columns. -/
def Draft.tableConstraint (kind : TableConstraintKind) (columns : List Piece) (expression : Piece) :
    Draft :=
  let group : Draft := .group (Piece.drafts columns)
  match kind with
  | .primaryKey => .seq [.text "PRIMARY KEY ", group]
  | .unique => .seq [.text "UNIQUE ", group]
  | .check => .seq [.text "CHECK ", expression.grouped]
  | .foreignKey => .seq [.text "FOREIGN KEY ", group, .text " ", expression.draft]

/-- The columns of another table that a constraint refers to, and what becomes of rows that refer to
a lost one. -/
def Draft.foreignKey (table : Piece) (columns : List Piece) (onDelete onUpdate : Piece) : Draft :=
  .phrase (.text "REFERENCES" :: table.part ++ [.group (Piece.drafts columns)] ++
    onDelete.clause "ON DELETE" ++ onUpdate.clause "ON UPDATE")

/-- The name of a constraint as the dialect keeps it. -/
def Piece.constraintName (g : Grammar) (p : Piece) : List Draft :=
  match p.shape with
  | .identifier (.text name) => [.text (g.quoteIdentifier (g.keptConstraintName name))]
  | _ => p.part

/-- The fault in a name of a constraint that is no text where the dialect limits names. It is
measured first, and replaced if it is too long. -/
def Piece.constraintNameFault? (g : Grammar) (p : Piece) : Option Fault :=
  match p.shape, g.constraintName with
  | .identifier (.other o), some limit =>
    match o.size? with
    | none => some (.unmeasurable o.typeName)
    | some n => if n > limit.maxLength then some (.lacks o.typeName .encoding) else none
  | _, _ => none

/-- A constraint that may have a name. -/
def Draft.constraint (g : Grammar) (algorithm name : Piece) : Draft :=
  match name.constraintNameFault? g with
  | some fault => .fail fault
  | none =>
    .phrase ((if name.isAbsent then [] else .text "CONSTRAINT" :: name.constraintName g) ++
      algorithm.part)

end SqlRender
