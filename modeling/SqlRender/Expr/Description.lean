import SqlRender.Expr.Build

/-!
# Descriptions

A node may be described by the name of its class and its fields by name, which is how it is shown.
Fields that are left out have the defaults of their class, and a part in a field may be a plain
value wherever it may be one when the node is built. `Expr.ofFields` builds what is described.
-/

namespace SqlRender

/-- The fields of a node by name. Of two with the same name the first counts. -/
structure Fields where
  entries : List (String × Expr)

namespace Fields

/-- The part in a field, if the field is given. -/
def expr? (f : Fields) (name : String) : Option Expr :=
  f.entries.lookup name

/-- The part in a field, which is absent if the field is left out. -/
def expr (f : Fields) (name : String) : Expr :=
  (f.expr? name).getD Expr.absent

/-- The outline of what is in a field. -/
def outline (f : Fields) (name : String) : Outline :=
  (f.expr name).outline

/-- The text that shows what is in a field. -/
def text (f : Fields) (name : String) : String :=
  (f.expr name).display

/-- What a field holds where a text is expected. -/
def wording (f : Fields) (name : String) : Wording :=
  (f.expr name).wording

/-- The text that shows what is in a field that something is looked up by. -/
def key (f : Fields) (name : String) : Except BuildError String :=
  match (f.expr name).digest with
  | .ok _ => .ok (f.text name)
  | .error typeName => .error (.unhashable typeName)

/-- The flag in a field. -/
def flag (f : Fields) (name : String) (default : Bool := false) : Flag :=
  match f.expr? name with
  | some e => .ofOutline e.outline
  | none => .bool default

/-- The items in a field, none if the field is left out. -/
def items (f : Fields) (name : String) : Except BuildError (List Expr) :=
  match f.expr? name with
  | some e => e.members
  | none => .ok []

/-- The items in a field that may hold nothing at all. -/
def items? (f : Fields) (name : String) : Except BuildError (Option (List Expr)) :=
  match f.expr name with
  | .value .null => .ok none
  | e => e.members.map some

/-- The items of the items in a field. -/
def rows (f : Fields) (name : String) : Except BuildError (List (List Expr)) := do
  (← f.items name).mapM Expr.members

/-- What the items in a field are where texts are expected. -/
def wordings (f : Fields) (name : String) : Except BuildError (List Wording) := do
  return (← f.items name).map Expr.wording

end Fields

namespace Expr

/-- The node of a basic class, or none if there is no such class. -/
def basicOfFields (className : String) (f : Fields) : Except BuildError (Option Expr) := do
  match className with
  | "Raw" => return node (.raw (f.wording "sql"))
  | "Identifier" => return node (.identifier (f.wording "name"))
  | "Literal" => return ← literal (f.text "kind") (f.outline "value")
  | "Bind" => return bind (f.expr "value")
  | "ExpressionList" =>
    let separator := ((f.expr? "separator").map Expr.wording).getD ", "
    return node (.list (← f.items "expressions") separator)
  | "Group" => return group (f.expr "expressions")
  | "Function" => return call (f.wording "name") (← f.items "args")
  | "BinaryExpression" => return operation (f.expr "left") (f.expr "op") (f.expr "right")
  | "Clause" => return node (.clause (f.wording "keyword") (f.expr "body"))
  | "QueryString" => return template (← f.items "fragments")
  | "Column" => return column (f.expr "name") (f.expr "table")
  | "QualifiedTable" => return qualifiedTable (f.expr "table") (f.expr "space")
  | "Alias" => return labelled (f.expr "expression") (f.expr "alias")
  | "Between" =>
    return between (f.expr "operand") (f.expr "lower_bound") (f.expr "upper_bound")
  | "Distinct" => return distinct (← f.items "args")
  | "NestedSubpath" => return subpath (f.expr "column") (← f.wordings "path")
  | "Case" =>
    return node (.case (← f.rows "cases") (f.expr "expression") (f.expr "alternative"))
  | "ExcludedColumn" => return excludedColumn (f.expr "name")
  | "ColumnAssignment" => return assignment (f.expr "column") (f.expr "value")
  | "Join" => return join (f.expr "method") (f.expr "table") (f.expr "expression")
  | "OrderBy" => return orderBy (f.expr "expression") (f.expr "direction")
  | "Subquery" => return node (.subquery (f.expr "query"))
  | "UnionSubquery" => return node (.unionSubquery (f.expr "query"))
  | "CommonTableExpression" =>
    return commonTable (f.expr "alias") (f.expr "query") (← f.items "columns") (f.flag "recursive")
  | "CommonTableExpressionGroup" =>
    return node (.commonTables (← f.items "table_expressions"))
  | "ConflictAction" => return conflictAction (← f.items? "assignments") (f.expr "predicate")
  | "ConflictStrategy" =>
    return conflictStrategy (← f.items "targets") ((f.expr? "action").getD conflictAction)
  | "InsertModifier" => return node .insertModifier
  | "Returning" => return returning (← f.items "columns")
  | "UnionJoiner" => return node (.unionJoiner (f.expr "type"))
  | _ => return none

/-- The node of a class for schemas, or none if there is no such class. -/
def schemaOfFields (className : String) (f : Fields) : Except BuildError (Option Expr) := do
  match className with
  | "DataType" => return ← dataType (← f.key "kind") (f.expr "custom")
  | "EnumDataType" => return enumDataType (← f.items "cases")
  | "ColumnConstraint" =>
    return ← columnConstraint (f.text "kind") (f.expr "expression") (f.flag "auto_increment")
  | "TableConstraint" =>
    let kind ← tableConstraintKind (f.text "kind")
    return tableConstraint kind (← f.items "columns") (f.expr "expression")
  | "ForeignKey" =>
    return foreignKey (f.expr "table") (← f.items "columns") (f.expr "on_delete")
      (f.expr "on_update")
  | "Constraint" => return constraint (f.expr "algorithm") (f.expr "name")
  | "ColumnDefinition" =>
    return columnDefinition (f.expr "column") (f.expr "data_type") (← f.items "constraints")
  | "AlterColumnType" => return alterColumnType (f.expr "column") (f.expr "data_type")
  | "CreateTable" =>
    return createTable
      { table := f.expr "table"
        columns := ← f.items "columns"
        tableConstraints := ← f.items "table_constraints"
        temporary := f.flag "temporary"
        ifNotExists := f.flag "if_not_exists"
        asQuery := f.expr "as_query" }
  | "AlterTable" =>
    return alterTable
      { table := f.expr "table"
        renameTo := f.expr "rename_to"
        addColumns := ← f.items "add_columns"
        modifyColumns := ← f.items "modify_columns"
        dropColumns := ← f.items "drop_columns"
        addConstraints := ← f.items "add_table_constraints"
        dropConstraints := ← f.items "drop_table_constraints" }
  | "DropTable" =>
    return dropTable
      { table := f.expr "table"
        ifExists := f.flag "if_exists"
        behavior := f.expr "behavior"
        temporary := f.flag "temporary" }
  | "CreateIndex" =>
    return createIndex
      { name := f.expr "name"
        table := f.expr "table"
        columns := ← f.items "columns"
        modifier := f.expr "modifier"
        predicate := f.expr "predicate" }
  | "DropIndex" =>
    return dropIndex
      { name := f.expr "name"
        ifExists := f.flag "if_exists"
        owner := f.expr "owning_object"
        behavior := f.expr "behavior" }
  | "CreateEnum" => return createEnum (f.expr "name") (← f.items "values")
  | "AlterEnum" => return alterEnum (f.expr "name") (f.expr "value")
  | "DropEnum" => return dropEnum (f.expr "name") (f.flag "if_exists") (f.flag "cascade")
  | "CreateTrigger" =>
    return createTrigger
      { name := f.expr "name"
        table := f.expr "table"
        time := f.expr "when"
        event := f.expr "event"
        columns := ← f.items "columns"
        isConstraint := f.flag "is_constraint"
        timing := f.expr "timing"
        referencedTable := f.expr "referenced_table"
        each := f.expr "each"
        condition := f.expr "condition"
        procedure := f.expr "procedure"
        definer := f.expr "definer"
        body := ← f.items? "body"
        order := f.expr "order"
        orderTrigger := f.expr "order_trigger_name" }
  | "DropTrigger" =>
    return dropTrigger
      { name := f.expr "name"
        table := f.expr "table"
        ifExists := f.flag "if_exists"
        behavior := (f.expr? "behavior").getD (node (.keyword (.dropBehavior .restrict))) }
  | _ => return none

/-- The node of a class for queries and changes, or none if there is no such class. -/
def queryOfFields (className : String) (f : Fields) : Except BuildError (Option Expr) := do
  match className with
  | "Select" =>
    return select
      { columns := ← f.items "columns"
        tables := ← f.items "tables"
        distinct := f.flag "distinct"
        joins := ← f.items "joins"
        predicate := f.expr "predicate"
        groupBy := ← f.items "group_by"
        having := f.expr "having"
        orderBy := ← f.items "order_by"
        limit := f.outline "limit"
        offset := f.outline "offset"
        locking := f.expr "locking_clause" }
  | "Insert" =>
    return insert
      { table := f.expr "table"
        columns := ← f.items "columns"
        rows := ← f.rows "values"
        query := f.expr "value_query"
        strategy := f.expr "conflict_strategy"
        returning := f.expr "returning" }
  | "Update" =>
    return update
      { table := f.expr "table"
        values := ← f.items "values"
        predicate := f.expr "predicate"
        returning := f.expr "returning"
        withTables := f.expr "table_expression_group" }
  | "Delete" =>
    return delete
      { table := f.expr "table"
        predicate := f.expr "predicate"
        returning := f.expr "returning"
        withTables := f.expr "table_expression_group" }
  | "Union" =>
    return union
      { initial := f.expr "initial_query"
        members := ← f.rows "unions"
        orderBy := ← f.items "order_by"
        limit := f.outline "limit"
        offset := f.outline "offset"
        withTables := f.expr "table_expression_group" }
  | _ => return none

/-- The node of a class with the given fields, or none if there is no such class. -/
def ofFields (className : String) (f : Fields) : Except BuildError (Option Expr) := do
  if let some e ← basicOfFields className f then return e
  if let some e ← schemaOfFields className f then return e
  queryOfFields className f

end Expr

end SqlRender
