import SqlRender.Dialect.Feature
import SqlRender.Dialect.Placeholder
import SqlRender.Text.Quoted

/-!
# Dialects

A dialect says how one database wants its SQL written. All of it but the placeholders is its
*grammar*: what a tree of expressions is drafted with. Every field has a default, so that a dialect
described in part still gives baseline SQL.
-/

namespace SqlRender

/-- How a column gets a type with listed cases. -/
inductive EnumStyle where
  /-- The cases stand in the column's type. -/
  | inline
  /-- The type is created on its own and has a name. -/
  | named
  | unsupported
  deriving DecidableEq, Repr

instance : Named EnumStyle where
  all := [.inline, .named, .unsupported]
  name
    | .inline => "INLINE"
    | .named => "TYPE_NAME"
    | .unsupported => "UNSUPPORTED"

/-- How an insertion says what becomes of rows that are there already. -/
inductive UpsertStyle where
  /-- `ON CONFLICT … DO NOTHING` or `DO UPDATE`. -/
  | onConflict
  /-- `INSERT IGNORE` or `ON DUPLICATE KEY UPDATE`. -/
  | onDuplicateKey
  | unsupported
  deriving DecidableEq, Repr

instance : Named UpsertStyle where
  all := [.onConflict, .onDuplicateKey, .unsupported]
  name
    | .onConflict => "STANDARD"
    | .onDuplicateKey => "MYSQL_LIKE"
    | .unsupported => "UNSUPPORTED"

/-- The kinds of column types. All but the last have a fixed name. -/
inductive DataKind where
  | smallint
  | int
  | bigint
  | real
  | text
  | blob
  | custom
  deriving DecidableEq, Repr

instance : Named DataKind where
  all := [.smallint, .int, .bigint, .real, .text, .blob, .custom]
  name
    | .smallint => "smallint"
    | .int => "int"
    | .bigint => "bigint"
    | .real => "real"
    | .text => "text"
    | .blob => "blob"
    | .custom => "custom"

/-- How a value inside a JSON column is reached. -/
inductive JsonAccess where
  /-- A call with the column and a path: `json_extract(c, '$.a.b')`. -/
  | extractCall
  /-- An arrow and a path: `(c->>'$.a.b')`. -/
  | pathArrow
  /-- One arrow for each key: `(c->'a'->>'b')`. -/
  | keyArrows
  deriving DecidableEq, Repr

/-- What a database understands of triggers. -/
structure TriggerSyntax where
  create : FeatureSet TriggerCreateFeature := .none
  drop : FeatureSet TriggerDropFeature := .none

/-- How a table is altered. `modifyVerb` changes a column's definition, and there is none if the
database cannot do that; `typeKeyword` stands between a column and its new type. -/
structure AlterTableSyntax where
  modifyVerb : Option String := none
  typeKeyword : Option String := none
  allowsBatch : Bool := true

/-- The words for truth values in lower case. -/
def lowercaseBoolean (b : Bool) : String :=
  if b then "true" else "false"

/-- How a database keeps the names of constraints: names with more characters than it takes are
replaced. -/
structure NameLimit where
  maxLength : Nat
  replacement : String → String

/-- The name that is kept. -/
def NameLimit.keep (l : NameLimit) (name : String) : String :=
  if name.length > l.maxLength then l.replacement name else name

/-- The SQL that a database takes, placeholders apart. The hooks are `typeName`, which gives a
column type another name, `constraintName`, which limits the names of constraints, and
`jsonAccess`. -/
structure Grammar where
  name : String := "generic"
  identifierQuote : String := "\""
  stringQuote : String := "'"
  booleanText : Bool → String := lowercaseBoolean
  defaultWord : String := "DEFAULT"
  supportsAutoIncrement : Bool := true
  autoIncrementClause : String := "AUTOINCREMENT"
  autoIncrementFunction : Option String := none
  supportsIfExists : Bool := true
  enumStyle : EnumStyle := .unsupported
  supportsDropBehavior : Bool := false
  supportsReturning : Bool := false
  triggers : TriggerSyntax := {}
  alterTable : AlterTableSyntax := {}
  upsertStyle : UpsertStyle := .unsupported
  unionFeatures : FeatureSet UnionFeature := .ofList [.union, .unionAll]
  sharedLock : Option String := none
  exclusiveLock : Option String := none
  offsetWithoutLimit : Option String := none
  typeName : Option (DataKind → Option String) := none
  constraintName : Option NameLimit := none
  jsonAccess : Option JsonAccess := none

/-- A grammar and the placeholders of a driver. -/
structure Dialect extends Grammar where
  paramStyle : String := "qmark"
  placeholder : Int → String := Placeholder.qmark

namespace Grammar

/-- The token for a name. -/
def quoteIdentifier (g : Grammar) (name : String) : String :=
  Text.quote g.identifierQuote name

/-- The token for a text. -/
def quoteString (g : Grammar) (text : String) : String :=
  Text.quote g.stringQuote text

/-- The name that the database gives a kind of column type, where it differs from the usual one. -/
def ownTypeName (g : Grammar) (kind : DataKind) : Option String :=
  g.typeName.bind (· kind)

/-- The name under which a constraint is kept. -/
def keptConstraintName (g : Grammar) (name : String) : String :=
  match g.constraintName with
  | some limit => limit.keep name
  | none => name

end Grammar

end SqlRender
