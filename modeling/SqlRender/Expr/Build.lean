import SqlRender.Expr.Basic

/-!
# Building expressions

Where a tree is built a plain text may stand for an identifier, a column, a text literal or text
that is written as it is, and a plain value for a bound one. These constructors say which, place by
place. They refuse kinds that do not exist.
-/

namespace SqlRender

/-- Why an expression cannot be built. -/
inductive BuildError where
  | unknownLiteral (kind : String)
  | unknownDataType (kind : String)
  | customWithoutExpression
  | unknownColumnConstraint (kind : String)
  | unknownTableConstraint (kind : String)
  | notIterable (typeName : String)
  | unhashable (typeName : String)
  | notTemplate (typeName : String)
  deriving DecidableEq, Repr

/-- The text of the error. -/
def BuildError.message : BuildError → String
  | .unknownLiteral kind => "Unknown literal kind '" ++ kind ++ "'"
  | .unknownDataType kind => "Unknown data type '" ++ kind ++ "'"
  | .customWithoutExpression => "A custom data type needs an expression"
  | .unknownColumnConstraint kind => "Unknown column constraint '" ++ kind ++ "'"
  | .unknownTableConstraint kind => "Unknown table constraint '" ++ kind ++ "'"
  | .notIterable typeName => "'" ++ typeName ++ "' object is not iterable"
  | .unhashable typeName => "unhashable type: '" ++ typeName ++ "'"
  | .notTemplate typeName => "'" ++ typeName ++ "' object has no attribute 'fragments'"

instance : Coe String Expr :=
  ⟨fun s => .value (.text s)⟩

namespace Expr

/-! ## What a plain value stands for -/

/-- A text stands for itself. -/
def orRaw : Expr → Expr
  | .value (.text s) => .node (.raw s)
  | e => e

/-- A text stands for an identifier. -/
def orIdentifier : Expr → Expr
  | .value (.text s) => .node (.identifier s)
  | e => e

/-- The literal that stands for all columns. -/
def all : Expr :=
  .node (.literal { kind := .all })

/-- A text literal. -/
def string (s : String) : Expr :=
  .node (.literal ⟨.string, .text s⟩)

/-- A text stands for a text literal. -/
def orString : Expr → Expr
  | .value (.text s) => string s
  | e => e

/-- Whether an expression can be rendered on its own. -/
def isRenderable : Expr → Bool
  | .node (.conflictAction _ _) => false
  | .node (.keyword (.setOperation _)) => false
  | .node _ => true
  | _ => false

/-- A bound value. -/
def bind (e : Expr) : Expr :=
  .node (.bind e.outline)

/-- What cannot be rendered stands for a bound value. -/
def orBind (e : Expr) : Expr :=
  if e.isRenderable then e else bind e

/-- A column, which may be qualified by a table. A star stands for all columns and is not quoted. -/
def column (name : Expr) (table : Expr := absent) : Expr :=
  let name :=
    match name with
    | .value (.text "*") => all
    | e => e.orIdentifier
  .node (.column name table.orIdentifier)

/-- A text stands for a column. -/
def orColumn : Expr → Expr
  | .value (.text s) => column s
  | e => e

/-- The plain value that an expression is, if it is one. -/
def plain? : Expr → Option Value
  | .value v => some v
  | _ => none

/-- The members of an expression where a sequence is expected. -/
def members (e : Expr) : Except BuildError (List Expr) :=
  match e with
  | .sequence _ items => .ok items
  | .value v =>
    match v.members? with
    | some vs => .ok (vs.map .value)
    | none => .error (.notIterable v.typeName)
  | .node _ => .error (.notIterable e.outline.typeName)

/-- A sequence of expressions. One that holds plain values only is a plain value itself. -/
def ofItems (isTuple : Bool) (items : List Expr) : Expr :=
  match items.mapM plain? with
  | some vs => .value (if isTuple then .tuple vs else .list vs)
  | none => .sequence isTuple items

/-! ## Literals and compounds -/

/-- A literal of a kind given by name. -/
def literal (kind : String) (value : Outline) : Except BuildError Expr :=
  match Named.find? (α := LiteralKind) kind with
  | some k => .ok (.node (.literal ⟨k, value⟩))
  | none => .error (.unknownLiteral kind)

/-- Expressions in parentheses. A sequence gives its items, all else is the only one. -/
def group : Expr → Expr
  | .sequence _ items => .node (.group items)
  | .value (.list items) => .node (.group (items.map .value))
  | .value (.tuple items) => .node (.group (items.map .value))
  | e => .node (.group [e])

/-- Values in parentheses, each of them bound. -/
def bindGroup (values : List Expr) : Expr :=
  .node (.group (values.map bind))

/-- A call of a function. -/
def call (name : Wording) (args : List Expr) : Expr :=
  .node (.call name (args.map orIdentifier))

/-- An operator between two operands. -/
def operation (left operator right : Expr) : Expr :=
  .node (.operation left.orColumn operator.orRaw right.orBind)

/-- A template of fragments. -/
def template (fragments : List Expr) : Expr :=
  .node (.template (fragments.map orRaw))

/-- The fragments of a template, and any other expression as the only one. -/
def fragments : Expr → List Expr
  | .node (.template fs) => fs
  | e => [e]

/-- Two templates one after the other. Anything else in place of one is its only fragment. -/
def append (e f : Expr) : Expr :=
  template (fragments e ++ fragments f)

/-- Templates one after the other, with the separator between them. -/
def joinTemplates (separator : Wording) (templates : List Expr) : Expr :=
  template (List.intercalate [.node (.raw separator)] (templates.map fragments))

/-- Expressions that are all templates. -/
def templates (es : List Expr) : Except BuildError (List Expr) :=
  es.mapM fun e =>
    match e with
    | .node (.template _) => .ok e
    | e => .error (.notTemplate e.outline.typeName)

/-! ## References and conditions -/

/-- A table, which may be qualified by a schema. -/
def qualifiedTable (table : Expr) (space : Expr := absent) : Expr :=
  .node (.qualifiedTable table.orIdentifier space.orIdentifier)

/-- An expression under another name. -/
def labelled (expression label : Expr) : Expr :=
  .node (.labelled expression label.orIdentifier)

/-- The value that an insertion tried to give a column. -/
def excludedColumn (name : Expr) : Expr :=
  .node (.excludedColumn name.orColumn)

/-- A value inside a JSON column. -/
def subpath (column : Expr) (path : List Wording) : Expr :=
  .node (.subpath column.orIdentifier path)

/-- An operand between two bounds. -/
def between (operand lower upper : Expr) : Expr :=
  .node (.between operand.orColumn lower.orBind upper.orBind)

/-! ## Schemas -/

/-- A column type of a kind given by name. -/
def dataType (kind : String) (custom : Expr) : Except BuildError Expr :=
  match Named.find? (α := DataKind) kind, custom with
  | some .custom, .value .null => .error .customWithoutExpression
  | some k, e => .ok (.node (.dataType k e))
  | none, _ => .error (.unknownDataType kind)

/-- A column type that is given by an expression. -/
def customType (expression : Expr) : Expr :=
  .node (.dataType .custom expression.orRaw)

/-- A built-in column type. -/
def plainType (kind : DataKind) : Expr :=
  .node (.dataType kind absent)

/-- A column type with listed cases. -/
def enumDataType (cases : List Expr) : Expr :=
  .node (.enumDataType (cases.map orString))

/-- A constraint of a column, of a kind given by name. -/
def columnConstraint (kind : String) (expression : Expr) (autoIncrement : Flag) :
    Except BuildError Expr :=
  match Named.find? (α := ColumnConstraintKind) kind with
  | some k => .ok (.node (.columnConstraint k expression autoIncrement))
  | none => .error (.unknownColumnConstraint kind)

/-- A constraint that needs no name for its kind. -/
def constraintOf (kind : ColumnConstraintKind) (expression : Expr := absent) : Expr :=
  .node (.columnConstraint kind expression (.bool false))

/-- A primary key of one column. -/
def primaryKey (autoIncrement : Flag := .bool true) : Expr :=
  .node (.columnConstraint .primaryKey absent autoIncrement)

/-- A default: scalars are written as literals. -/
def defaultValue (value : Expr) : Expr :=
  constraintOf .default <|
    match value with
    | .value (.bool b) => .node (.literal ⟨.boolean, .bool b⟩)
    | .value (.int i) => .node (.literal ⟨.numeric, .text (Value.int i).display⟩)
    | .value (.float x) => .node (.literal ⟨.numeric, .text (Value.float x).display⟩)
    | e => e.orString

/-- The columns of another table that a constraint refers to. -/
def foreignKey (table : Expr) (columns : List Expr) (onDelete onUpdate : Expr := absent) : Expr :=
  .node (.foreignKey table.orIdentifier (columns.map orIdentifier) onDelete onUpdate)

/-- The kind of constraints of several columns with a name. -/
def tableConstraintKind (kind : String) : Except BuildError TableConstraintKind :=
  match Named.find? kind with
  | some k => .ok k
  | none => .error (.unknownTableConstraint kind)

/-- A constraint of several columns. -/
def tableConstraint (kind : TableConstraintKind) (columns : List Expr)
    (expression : Expr := absent) : Expr :=
  .node (.tableConstraint kind (columns.map orIdentifier) expression)

/-- A constraint that may have a name. -/
def constraint (algorithm : Expr) (name : Expr := absent) : Expr :=
  .node (.constraint algorithm name.orIdentifier)

/-- A column of a new table. -/
def columnDefinition (column dataType : Expr) (constraints : List Expr := []) : Expr :=
  .node (.columnDefinition column.orIdentifier dataType constraints)

/-- A new type for a column. -/
def alterColumnType (column dataType : Expr) : Expr :=
  .node (.alterColumnType column.orIdentifier dataType)

/-- The creation of a table. -/
def createTable (s : CreateTable Expr) : Expr :=
  .node (.createTable { s with table := s.table.orIdentifier })

/-- The alteration of a table. -/
def alterTable (s : AlterTable Expr) : Expr :=
  .node (.alterTable
    { s with
      table := s.table.orIdentifier
      renameTo := s.renameTo.orIdentifier
      dropColumns := s.dropColumns.map orIdentifier
      dropConstraints := s.dropConstraints.map orIdentifier })

/-- The removal of a table. -/
def dropTable (s : DropTable Expr) : Expr :=
  .node (.dropTable { s with table := s.table.orIdentifier })

/-- The creation of an index. -/
def createIndex (s : CreateIndex Expr) : Expr :=
  .node (.createIndex
    { s with
      name := s.name.orIdentifier
      table := s.table.orIdentifier
      columns := s.columns.map orColumn })

/-- The removal of an index. -/
def dropIndex (s : DropIndex Expr) : Expr :=
  .node (.dropIndex { s with name := s.name.orIdentifier, owner := s.owner.orIdentifier })

/-- The creation of a named type with listed cases. -/
def createEnum (name : Expr) (values : List Expr) : Expr :=
  .node (.createEnum name.orIdentifier (values.map orString))

/-- The extension of a named type by a value. -/
def alterEnum (name value : Expr) : Expr :=
  .node (.alterEnum name.orIdentifier value.orString)

/-- The removal of a named type. -/
def dropEnum (name : Expr) (ifExists cascade : Flag) : Expr :=
  .node (.dropEnum name.orIdentifier ifExists cascade)

/-! ## Queries -/

/-- A list of expressions that rows are told apart by. -/
def distinct (args : List Expr) : Expr :=
  .node (.distinct (args.map orIdentifier))

/-- A further table of a query. -/
def join (method table condition : Expr) : Expr :=
  .node (.join method table.orIdentifier condition)

/-- An expression that rows are ordered by. -/
def orderBy (expression : Expr) (direction : Expr := absent) : Expr :=
  .node (.orderBy expression.orColumn direction)

/-- A query with a name. -/
def commonTable (label query : Expr) (columns : List Expr) (recursive : Flag) : Expr :=
  .node (.commonTable label.orIdentifier query (columns.map orIdentifier) recursive)

/-- A query. -/
def select (s : Select Expr) : Expr :=
  .node (.select
    { s with
      columns := s.columns.map orColumn
      tables := s.tables.map orIdentifier
      groupBy := s.groupBy.map orColumn })

/-- A union. -/
def union (s : Union Expr) : Expr :=
  .node (.union s)

/-- The union with one more member. -/
def addMember (s : Union Expr) (joiner query : Expr) : Union Expr :=
  { s with members := s.members ++ [[joiner, query]] }

/-- The joiner for a union that removes duplicates or keeps them. -/
def unionJoiner (distinct : Bool) : Expr :=
  .node (.unionJoiner (.node (.keyword (.setOperation (if distinct then .union else .unionAll)))))

/-! ## Changes -/

/-- A new value for a column. -/
def assignment (column value : Expr) : Expr :=
  .node (.assignment column.orColumn value.orBind)

/-- What is done on a conflict. -/
def conflictAction (assignments : Option (List Expr) := none) (filter : Expr := absent) : Expr :=
  .node (.conflictAction assignments filter)

/-- What an insertion does about conflicts. -/
def conflictStrategy (targets : List Expr) (action : Expr := conflictAction) : Expr :=
  .node (.conflictStrategy (targets.map orColumn) action)

/-- The columns that a statement gives back. -/
def returning (columns : List Expr) : Expr :=
  .node (.returning (columns.map orColumn))

/-- An insertion. -/
def insert (s : Insert Expr) : Expr :=
  .node (.insert
    { s with
      table := s.table.orIdentifier
      columns := s.columns.map orIdentifier
      rows := s.rows.map (·.map orBind) })

/-- An update. -/
def update (s : Update Expr) : Expr :=
  .node (.update { s with table := s.table.orIdentifier })

/-- A deletion. -/
def delete (s : Delete Expr) : Expr :=
  .node (.delete { s with table := s.table.orIdentifier })

/-! ## Triggers -/

/-- The creation of a trigger. -/
def createTrigger (s : CreateTrigger Expr) : Expr :=
  .node (.createTrigger
    { s with
      name := s.name.orIdentifier
      table := s.table.orIdentifier
      columns := s.columns.map orColumn
      referencedTable := s.referencedTable.orIdentifier
      procedure := s.procedure.orIdentifier
      orderTrigger := s.orderTrigger.orIdentifier })

/-- The removal of a trigger. -/
def dropTrigger (s : DropTrigger Expr) : Expr :=
  .node (.dropTrigger { s with name := s.name.orIdentifier, table := s.table.orIdentifier })

end Expr

end SqlRender
