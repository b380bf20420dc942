import SqlRender.Expr.Condition
import SqlRender.Expr.Flag
import SqlRender.Expr.Literal
import SqlRender.Expr.Reference
import SqlRender.Query.Change
import SqlRender.Query.Select
import SqlRender.Query.Union
import SqlRender.Query.Upsert
import SqlRender.Query.With
import SqlRender.Schema.Column
import SqlRender.Schema.Constraint
import SqlRender.Schema.DataType
import SqlRender.Schema.EnumType
import SqlRender.Schema.Index
import SqlRender.Schema.Table
import SqlRender.Trigger.Create
import SqlRender.Trigger.Drop

/-!
# Nodes

A node is one layer of an expression, whatever its parts are. With expressions as parts it is a node
of a tree; with pieces it can be drafted, and with outlines it can be shown and compared.
-/

namespace SqlRender

/-- One layer of an expression with parts of type `ε`. -/
inductive Node (ε : Type) where
  /-- Text that is written as it is. -/
  | raw (sql : Wording)
  /-- A name, which is quoted. -/
  | identifier (name : Wording)
  | literal (l : Literal)
  /-- A value that is sent apart from the text. -/
  | bind (value : Outline)
  | keyword (k : Keyword)
  /-- The early word of an insertion that ignores conflicting rows. -/
  | insertModifier
  /-- Expressions with a separator between them. -/
  | list (items : List ε) (separator : Wording)
  /-- Expressions in parentheses, with commas between them. -/
  | group (items : List ε)
  /-- A call of a function, whose name is written as it is. -/
  | call (name : Wording) (args : List ε)
  /-- An operator between two operands. -/
  | operation (left operator right : ε)
  /-- A keyword and a body, of which neither is written if the body has no text. -/
  | clause (word : Wording) (body : ε)
  /-- Expressions one after the other, with nothing between them. -/
  | template (fragments : List ε)
  /-- A column, which may be qualified by its table. -/
  | column (name table : ε)
  /-- A table, which may be qualified by its schema. -/
  | qualifiedTable (table space : ε)
  /-- An expression under another name. -/
  | labelled (expression label : ε)
  /-- The value that an insertion tried to give a column of a row that was there already. -/
  | excludedColumn (name : ε)
  /-- A value inside a JSON column, at a path of keys. -/
  | subpath (target : ε) (path : List Wording)
  /-- An operand between two bounds. -/
  | between (operand lower upper : ε)
  /-- Results by condition, or by the value of an operand. -/
  | case (cases : List (List ε)) (operand alternative : ε)
  /-- A column type. A custom one is given by an expression. -/
  | dataType (kind : DataKind) (custom : ε)
  /-- A column type with listed cases. -/
  | enumDataType (cases : List ε)
  /-- A constraint of one column. Most kinds need an expression. -/
  | columnConstraint (kind : ColumnConstraintKind) (expression : ε) (autoIncrement : Flag)
  /-- A constraint of several columns. -/
  | tableConstraint (kind : TableConstraintKind) (columns : List ε) (expression : ε)
  /-- The columns of another table that a constraint refers to. -/
  | foreignKey (table : ε) (columns : List ε) (onDelete onUpdate : ε)
  /-- A constraint that may have a name. -/
  | constraint (algorithm name : ε)
  /-- A column of a new table. -/
  | columnDefinition (target type : ε) (constraints : List ε)
  /-- A new type for a column. -/
  | alterColumnType (target type : ε)
  /-- The creation of a named type with listed cases. -/
  | createEnum (name : ε) (values : List ε)
  /-- The extension of a named type by a value. -/
  | alterEnum (name value : ε)
  /-- The removal of a named type. -/
  | dropEnum (name : ε) (ifExists cascade : Flag)
  /-- A list of expressions that rows are told apart by. -/
  | distinct (args : List ε)
  /-- A further table of a query and the condition that its rows are joined on. -/
  | join (method table condition : ε)
  /-- An expression that rows are ordered by. -/
  | orderBy (expression direction : ε)
  /-- A query in place of a value or a table. -/
  | subquery (query : ε)
  /-- A union in place of a value or a table. -/
  | unionSubquery (query : ε)
  /-- A query with a name, which may refer to itself if it is recursive. -/
  | commonTable (label query : ε) (columns : List ε) (recursive : Flag)
  /-- The common tables of a statement. -/
  | commonTables (tables : List ε)
  /-- A new value for a column. -/
  | assignment (target value : ε)
  /-- What is done on a conflict: nothing, or an update with the assignments. -/
  | conflictAction (assignments : Option (List ε)) (filter : ε)
  /-- What an insertion does about conflicts on its targets. -/
  | conflictStrategy (targets : List ε) (action : ε)
  /-- The columns that a statement gives back of the rows it changed. -/
  | returning (columns : List ε)
  /-- The operator between two queries. -/
  | unionJoiner (operator : ε)
  | createTable (statement : CreateTable ε)
  | alterTable (statement : AlterTable ε)
  | dropTable (statement : DropTable ε)
  | createIndex (statement : CreateIndex ε)
  | dropIndex (statement : DropIndex ε)
  | select (statement : Select ε)
  | insert (statement : Insert ε)
  | update (statement : Update ε)
  | delete (statement : Delete ε)
  | union (statement : Union ε)
  | createTrigger (statement : CreateTrigger ε)
  | dropTrigger (statement : DropTrigger ε)

namespace Node

/-- Apply a function to every part. -/
def map {α β : Type} (f : α → β) : Node α → Node β
  | .raw sql => .raw sql
  | .identifier name => .identifier name
  | .literal l => .literal l
  | .bind value => .bind value
  | .keyword k => .keyword k
  | .insertModifier => .insertModifier
  | .list items separator => .list (items.map f) separator
  | .group items => .group (items.map f)
  | .call name args => .call name (args.map f)
  | .operation left operator right => .operation (f left) (f operator) (f right)
  | .clause word body => .clause word (f body)
  | .template fragments => .template (fragments.map f)
  | .column name table => .column (f name) (f table)
  | .qualifiedTable table space => .qualifiedTable (f table) (f space)
  | .labelled expression label => .labelled (f expression) (f label)
  | .excludedColumn name => .excludedColumn (f name)
  | .subpath target path => .subpath (f target) path
  | .between operand lower upper => .between (f operand) (f lower) (f upper)
  | .case cases operand alternative => .case (cases.map (·.map f)) (f operand) (f alternative)
  | .dataType kind custom => .dataType kind (f custom)
  | .enumDataType cases => .enumDataType (cases.map f)
  | .columnConstraint kind expression autoIncrement =>
    .columnConstraint kind (f expression) autoIncrement
  | .tableConstraint kind columns expression =>
    .tableConstraint kind (columns.map f) (f expression)
  | .foreignKey table columns onDelete onUpdate =>
    .foreignKey (f table) (columns.map f) (f onDelete) (f onUpdate)
  | .constraint algorithm name => .constraint (f algorithm) (f name)
  | .columnDefinition target type constraints =>
    .columnDefinition (f target) (f type) (constraints.map f)
  | .alterColumnType target type => .alterColumnType (f target) (f type)
  | .createEnum name values => .createEnum (f name) (values.map f)
  | .alterEnum name value => .alterEnum (f name) (f value)
  | .dropEnum name ifExists cascade => .dropEnum (f name) ifExists cascade
  | .distinct args => .distinct (args.map f)
  | .join method table condition => .join (f method) (f table) (f condition)
  | .orderBy expression direction => .orderBy (f expression) (f direction)
  | .subquery query => .subquery (f query)
  | .unionSubquery query => .unionSubquery (f query)
  | .commonTable label query columns recursive =>
    .commonTable (f label) (f query) (columns.map f) recursive
  | .commonTables tables => .commonTables (tables.map f)
  | .assignment target value => .assignment (f target) (f value)
  | .conflictAction assignments filter => .conflictAction (assignments.map (·.map f)) (f filter)
  | .conflictStrategy targets action => .conflictStrategy (targets.map f) (f action)
  | .returning columns => .returning (columns.map f)
  | .unionJoiner operator => .unionJoiner (f operator)
  | .createTable statement => .createTable (statement.map f)
  | .alterTable statement => .alterTable (statement.map f)
  | .dropTable statement => .dropTable (statement.map f)
  | .createIndex statement => .createIndex (statement.map f)
  | .dropIndex statement => .dropIndex (statement.map f)
  | .select statement => .select (statement.map f)
  | .insert statement => .insert (statement.map f)
  | .update statement => .update (statement.map f)
  | .delete statement => .delete (statement.map f)
  | .union statement => .union (statement.map f)
  | .createTrigger statement => .createTrigger (statement.map f)
  | .dropTrigger statement => .dropTrigger (statement.map f)

/-- A keyword on its own. Operators that are not portable are left out with a warning, locks are
asked for in the dialect's words, and operators between queries have no text of their own. -/
def keywordDraft (g : Grammar) : Keyword → Draft
  | .operator .concatenate => .warn .concatenation
  | .locking l => l.draft g
  | .setOperation _ => Piece.unrenderable "UnionType"
  | k => .text k.text

/-- What rendering a node does. -/
def draft (g : Grammar) : Node Piece → Draft
  | .raw sql => sql.written
  | .identifier name => name.quoted g.quoteIdentifier
  | .literal l => l.draft g
  | .bind value => .bind value.bound
  | .keyword k => keywordDraft g k
  | .insertModifier => .text "IGNORE"
  | .list items separator => .join separator.separator (Piece.drafts items)
  | .group items => .group (Piece.drafts items)
  | .call name args => .seq [name.written, .group (Piece.drafts args)]
  | .operation left operator right => .phrase (Piece.parts [left, operator, right])
  | .clause word body => .clause word.display body.draft
  | .template fragments => .seq (Piece.drafts fragments)
  | .column name table => .qualified table name
  | .qualifiedTable table space => .qualified space table
  | .labelled expression label => .labelled expression label
  | .excludedColumn name => .excludedColumn g name
  | .subpath target path => .subpath g target path
  | .between operand lower upper => .between operand lower upper
  | .case cases operand alternative => .case cases operand alternative
  | .dataType kind custom => .dataType g kind custom
  | .enumDataType cases => .enumDataType g cases
  | .columnConstraint kind expression autoIncrement =>
    .columnConstraint g kind expression autoIncrement.holds
  | .tableConstraint kind columns expression => .tableConstraint kind columns expression
  | .foreignKey table columns onDelete onUpdate => .foreignKey table columns onDelete onUpdate
  | .constraint algorithm name => .constraint g algorithm name
  | .columnDefinition target type constraints => .columnDefinition target type constraints
  | .alterColumnType target type => .alterColumnType g target type
  | .createEnum name values => .createEnum g name values
  | .alterEnum name value => .alterEnum g name value
  | .dropEnum name ifExists cascade => .dropEnum g name ifExists.holds cascade.holds
  | .distinct args => .distinct args
  | .join method table condition => .tableJoin method table condition
  | .orderBy expression direction => .phrase (Piece.parts [expression, direction])
  | .subquery query => query.grouped
  | .unionSubquery query => query.grouped
  | .commonTable label query columns _ => .commonTable label query columns
  | .commonTables tables => .commonTables tables
  | .assignment target value => .assignment target value
  | .conflictAction _ _ => Piece.unrenderable "ConflictAction"
  | .conflictStrategy targets action => .conflictStrategy g targets action
  | .returning columns => .returning g columns
  | .unionJoiner operator => .unionJoiner g operator
  | .createTable statement => statement.draft g
  | .alterTable statement => statement.draft g
  | .dropTable statement => statement.draft g
  | .createIndex statement => statement.draft
  | .dropIndex statement => statement.draft g
  | .select statement => statement.draft g
  | .insert statement => statement.draft
  | .update statement => statement.draft
  | .delete statement => statement.draft
  | .union statement => statement.draft g
  | .createTrigger statement => statement.draft g
  | .dropTrigger statement => statement.draft g

/-- What a surrounding node may tell about a node. -/
def shape (g : Grammar) : Node Piece → Shape
  | .identifier name => .identifier name
  | .keyword k => .keyword k
  | .group _ => .bracketed
  | .subquery _ => .bracketed
  | .unionSubquery _ => .bracketed
  | .commonTable _ _ _ recursive => if recursive.holds then .recursiveTable else .plain
  | .conflictAction assignments filter => .conflictAction (.ofPieces assignments filter)
  | .conflictStrategy _ action => .conflictStrategy (action.asksToIgnore g)
  | _ => .plain

/-- The outline of a node. -/
def outline : Node Outline → Outline
  | .raw sql => .record "Raw" [("sql", sql.outline)]
  | .identifier name => .record "Identifier" [("name", name.outline)]
  | .literal l => l.outline
  | .bind value => .record "Bind" [("value", value)]
  | .keyword k => .keyword k
  | .insertModifier => .token "InsertModifier"
  | .list items separator =>
    .record "ExpressionList" [("expressions", .tuple items), ("separator", separator.outline)]
  | .group items => .record "Group" [("expressions", .tuple items)]
  | .call name args => .record "Function" [("name", name.outline), ("args", .tuple args)]
  | .operation left operator right =>
    .record "BinaryExpression" [("left", left), ("op", operator), ("right", right)]
  | .clause word body => .record "Clause" [("keyword", word.outline), ("body", body)]
  | .template fragments => .template fragments
  | .column name table => .record "Column" [("name", name), ("table", table)]
  | .qualifiedTable table space => .record "QualifiedTable" [("table", table), ("space", space)]
  | .labelled expression label => .record "Alias" [("expression", expression), ("alias", label)]
  | .excludedColumn name => .record "ExcludedColumn" [("name", name)]
  | .subpath target path =>
    .record "NestedSubpath" [("column", target), ("path", .tuple (path.map Wording.outline))]
  | .between operand lower upper =>
    .record "Between" [("operand", operand), ("lower_bound", lower), ("upper_bound", upper)]
  | .case cases operand alternative =>
    .record "Case" [("cases", .tuple (cases.map .tuple)), ("expression", operand),
      ("alternative", alternative)]
  | .dataType kind custom =>
    .record "DataType" [("kind", .text (Named.name kind)), ("custom", custom)]
  | .enumDataType cases => .record "EnumDataType" [("cases", .tuple cases)]
  | .columnConstraint kind expression autoIncrement =>
    .record "ColumnConstraint" [("kind", .text (Named.name kind)), ("expression", expression),
      ("auto_increment", autoIncrement.outline)]
  | .tableConstraint kind columns expression =>
    .record "TableConstraint" [("kind", .text (Named.name kind)), ("columns", .tuple columns),
      ("expression", expression)]
  | .foreignKey table columns onDelete onUpdate =>
    .record "ForeignKey" [("table", table), ("columns", .tuple columns),
      ("on_delete", onDelete), ("on_update", onUpdate)]
  | .constraint algorithm name => .record "Constraint" [("algorithm", algorithm), ("name", name)]
  | .columnDefinition target type constraints =>
    .record "ColumnDefinition" [("column", target), ("data_type", type),
      ("constraints", .tuple constraints)]
  | .alterColumnType target type =>
    .record "AlterColumnType" [("column", target), ("data_type", type)]
  | .createEnum name values => .record "CreateEnum" [("name", name), ("values", .tuple values)]
  | .alterEnum name value => .record "AlterEnum" [("name", name), ("value", value)]
  | .dropEnum name ifExists cascade =>
    .record "DropEnum" [("name", name), ("if_exists", ifExists.outline),
      ("cascade", cascade.outline)]
  | .distinct args => .record "Distinct" [("args", .tuple args)]
  | .join method table condition =>
    .record "Join" [("method", method), ("table", table), ("expression", condition)]
  | .orderBy expression direction =>
    .record "OrderBy" [("expression", expression), ("direction", direction)]
  | .subquery query => .record "Subquery" [("query", query)]
  | .unionSubquery query => .record "UnionSubquery" [("query", query)]
  | .commonTable label query columns recursive =>
    .record "CommonTableExpression" [("alias", label), ("query", query),
      ("columns", .tuple columns), ("recursive", recursive.outline)]
  | .commonTables tables =>
    .record "CommonTableExpressionGroup" [("table_expressions", .tuple tables)]
  | .assignment target value => .record "ColumnAssignment" [("column", target), ("value", value)]
  | .conflictAction assignments filter =>
    .record "ConflictAction"
      [("assignments", (assignments.map Outline.tuple).getD (.value .null)),
        ("predicate", filter)]
  | .conflictStrategy targets action =>
    .record "ConflictStrategy" [("targets", .tuple targets), ("action", action)]
  | .returning columns => .record "Returning" [("columns", .tuple columns)]
  | .unionJoiner operator => .record "UnionJoiner" [("type", operator)]
  | .createTable statement => statement.outline
  | .alterTable statement => statement.outline
  | .dropTable statement => statement.outline
  | .createIndex statement => statement.outline
  | .dropIndex statement => statement.outline
  | .select statement => statement.outline
  | .insert statement => statement.outline
  | .update statement => statement.outline
  | .delete statement => statement.outline
  | .union statement => statement.outline
  | .createTrigger statement => statement.outline
  | .dropTrigger statement => statement.outline

/-- A node as a surrounding node sees it. -/
def piece (g : Grammar) (n : Node Piece) : Piece :=
  ⟨n.draft g, n.shape g, (n.map Piece.outline).outline⟩

end Node

end SqlRender
