import SqlRender.Expr.Node

/-!
# Expressions

An expression is a tree of nodes. Anything may stand where an expression is expected: a value is
kept as it is, and what becomes of it is decided when the tree is rendered. Functions on expressions
are folds; `Expr.fold_node` says what a fold does at a node.
-/

namespace SqlRender

/-- A tree of nodes, a value in place of one, or a sequence with such trees in it. -/
inductive Expr where
  | value (v : Value)
  | sequence (isTuple : Bool) (items : List Expr)
  | node (n : Node Expr)

instance : Inhabited Expr :=
  ⟨.value .null⟩

namespace Expr

section Fold

variable {α : Type} (value : Value → α) (sequence : Bool → List α → α) (node : Node α → α)

mutual

/-- Replace each part of a tree, from the leaves to the root. -/
def fold : Expr → α
  | .value v => value v
  | .sequence isTuple items => sequence isTuple (foldList items)
  | .node n => node (foldNode n)

/-- Fold expressions one by one. -/
def foldList : List Expr → List α
  | [] => []
  | e :: es => fold e :: foldList es

/-- Fold rows of expressions. -/
def foldRows : List (List Expr) → List (List α)
  | [] => []
  | row :: rows => foldList row :: foldRows rows

/-- Fold the expressions of a list that may be missing. -/
def foldList? : Option (List Expr) → Option (List α)
  | none => none
  | some es => some (foldList es)

/-- Fold the parts of a node. -/
def foldNode : Node Expr → Node α
  | .raw sql => .raw sql
  | .identifier name => .identifier name
  | .literal l => .literal l
  | .bind value => .bind value
  | .keyword k => .keyword k
  | .insertModifier => .insertModifier
  | .list items separator => .list (foldList items) separator
  | .group items => .group (foldList items)
  | .call name args => .call name (foldList args)
  | .operation left operator right => .operation (fold left) (fold operator) (fold right)
  | .clause word body => .clause word (fold body)
  | .template fragments => .template (foldList fragments)
  | .column name table => .column (fold name) (fold table)
  | .qualifiedTable table space => .qualifiedTable (fold table) (fold space)
  | .labelled expression label => .labelled (fold expression) (fold label)
  | .excludedColumn name => .excludedColumn (fold name)
  | .subpath target path => .subpath (fold target) path
  | .between operand lower upper => .between (fold operand) (fold lower) (fold upper)
  | .case cases operand alternative => .case (foldRows cases) (fold operand) (fold alternative)
  | .dataType kind custom => .dataType kind (fold custom)
  | .enumDataType cases => .enumDataType (foldList cases)
  | .columnConstraint kind expression autoIncrement =>
    .columnConstraint kind (fold expression) autoIncrement
  | .tableConstraint kind columns expression =>
    .tableConstraint kind (foldList columns) (fold expression)
  | .foreignKey table columns onDelete onUpdate =>
    .foreignKey (fold table) (foldList columns) (fold onDelete) (fold onUpdate)
  | .constraint algorithm name => .constraint (fold algorithm) (fold name)
  | .columnDefinition target type constraints =>
    .columnDefinition (fold target) (fold type) (foldList constraints)
  | .alterColumnType target type => .alterColumnType (fold target) (fold type)
  | .createEnum name values => .createEnum (fold name) (foldList values)
  | .alterEnum name given => .alterEnum (fold name) (fold given)
  | .dropEnum name ifExists cascade => .dropEnum (fold name) ifExists cascade
  | .distinct args => .distinct (foldList args)
  | .join method table condition => .join (fold method) (fold table) (fold condition)
  | .orderBy expression direction => .orderBy (fold expression) (fold direction)
  | .subquery query => .subquery (fold query)
  | .unionSubquery query => .unionSubquery (fold query)
  | .commonTable label query columns recursive =>
    .commonTable (fold label) (fold query) (foldList columns) recursive
  | .commonTables tables => .commonTables (foldList tables)
  | .assignment target given => .assignment (fold target) (fold given)
  | .conflictAction assignments filter => .conflictAction (foldList? assignments) (fold filter)
  | .conflictStrategy targets action => .conflictStrategy (foldList targets) (fold action)
  | .returning columns => .returning (foldList columns)
  | .unionJoiner operator => .unionJoiner (fold operator)
  | .createTable ⟨table, columns, tableConstraints, temporary, ifNotExists, asQuery⟩ =>
    .createTable ⟨fold table, foldList columns, foldList tableConstraints, temporary,
      ifNotExists, fold asQuery⟩
  | .alterTable ⟨table, renameTo, addColumns, modifyColumns, dropColumns, addConstraints,
      dropConstraints⟩ =>
    .alterTable ⟨fold table, fold renameTo, foldList addColumns, foldList modifyColumns,
      foldList dropColumns, foldList addConstraints, foldList dropConstraints⟩
  | .dropTable ⟨table, ifExists, behavior, temporary⟩ =>
    .dropTable ⟨fold table, ifExists, fold behavior, temporary⟩
  | .createIndex ⟨name, table, columns, modifier, predicate⟩ =>
    .createIndex ⟨fold name, fold table, foldList columns, fold modifier, fold predicate⟩
  | .dropIndex ⟨name, ifExists, owner, behavior⟩ =>
    .dropIndex ⟨fold name, ifExists, fold owner, fold behavior⟩
  | .select ⟨columns, tables, distinct, joins, predicate, groupBy, having, orderBy, limit,
      offset, locking⟩ =>
    .select ⟨foldList columns, foldList tables, distinct, foldList joins, fold predicate,
      foldList groupBy, fold having, foldList orderBy, limit, offset, fold locking⟩
  | .insert ⟨table, columns, rows, query, strategy, returning⟩ =>
    .insert ⟨fold table, foldList columns, foldRows rows, fold query, fold strategy,
      fold returning⟩
  | .update ⟨table, values, predicate, returning, withTables⟩ =>
    .update ⟨fold table, foldList values, fold predicate, fold returning, fold withTables⟩
  | .delete ⟨table, predicate, returning, withTables⟩ =>
    .delete ⟨fold table, fold predicate, fold returning, fold withTables⟩
  | .union ⟨initial, members, orderBy, limit, offset, withTables⟩ =>
    .union ⟨fold initial, foldRows members, foldList orderBy, limit, offset, fold withTables⟩
  | .createTrigger ⟨name, table, time, event, columns, isConstraint, timing, referencedTable,
      each, condition, procedure, definer, body, order, orderTrigger⟩ =>
    .createTrigger ⟨fold name, fold table, fold time, fold event, foldList columns,
      isConstraint, fold timing, fold referencedTable, fold each, fold condition, fold procedure,
      fold definer, foldList? body, fold order, fold orderTrigger⟩
  | .dropTrigger ⟨name, table, ifExists, behavior⟩ =>
    .dropTrigger ⟨fold name, fold table, ifExists, fold behavior⟩

end

theorem foldList_eq_map (es : List Expr) :
    foldList value sequence node es = es.map (fold value sequence node) := by
  induction es with
  | nil => rfl
  | cons e es ih => exact congrArg (fold value sequence node e :: ·) ih

theorem foldRows_eq_map (rows : List (List Expr)) :
    foldRows value sequence node rows = rows.map (·.map (fold value sequence node)) := by
  induction rows with
  | nil => rfl
  | cons row rows ih =>
    show foldList value sequence node row :: foldRows value sequence node rows = _
    rw [ih, foldList_eq_map, List.map_cons]

theorem foldList?_eq_map (es : Option (List Expr)) :
    foldList? value sequence node es = es.map (·.map (fold value sequence node)) := by
  cases es with
  | none => rfl
  | some es => exact congrArg some (foldList_eq_map value sequence node es)

/-- Folding the parts of a node goes to lists of parts in its own way, and that is all in which it
differs from `Node.map`. -/
theorem foldNode_eq_map (n : Node Expr) :
    foldNode value sequence node n = n.map (fold value sequence node) := by
  have list := foldList_eq_map value sequence node
  have rows := foldRows_eq_map value sequence node
  have list? := foldList?_eq_map value sequence node
  cases n with
  | list items separator => exact congrArg (Node.list · separator) (list items)
  | group items => exact congrArg Node.group (list items)
  | call name args => exact congrArg (Node.call name) (list args)
  | template fragments => exact congrArg Node.template (list fragments)
  | case cases operand alternative => exact congrArg (Node.case · _ _) (rows cases)
  | enumDataType cases => exact congrArg Node.enumDataType (list cases)
  | tableConstraint kind columns expression =>
    exact congrArg (Node.tableConstraint kind · _) (list columns)
  | foreignKey table columns onDelete onUpdate =>
    exact congrArg (Node.foreignKey _ · _ _) (list columns)
  | columnDefinition target type constraints =>
    exact congrArg (Node.columnDefinition _ _) (list constraints)
  | createEnum name values => exact congrArg (Node.createEnum _) (list values)
  | distinct args => exact congrArg Node.distinct (list args)
  | commonTable label query columns recursive =>
    exact congrArg (Node.commonTable _ _ · recursive) (list columns)
  | commonTables tables => exact congrArg Node.commonTables (list tables)
  | conflictAction assignments filter =>
    exact congrArg (Node.conflictAction · _) (list? assignments)
  | conflictStrategy targets action => exact congrArg (Node.conflictStrategy · _) (list targets)
  | returning columns => exact congrArg Node.returning (list columns)
  | createTable s =>
    show Node.createTable ⟨_, _, _, _, _, _⟩ = Node.createTable ⟨_, _, _, _, _, _⟩
    rw [list, list]
  | alterTable s =>
    show Node.alterTable ⟨_, _, _, _, _, _, _⟩ = Node.alterTable ⟨_, _, _, _, _, _, _⟩
    rw [list, list, list, list, list]
  | createIndex s =>
    show Node.createIndex ⟨_, _, _, _, _⟩ = Node.createIndex ⟨_, _, _, _, _⟩
    rw [list]
  | select s =>
    show Node.select ⟨_, _, _, _, _, _, _, _, _, _, _⟩ =
      Node.select ⟨_, _, _, _, _, _, _, _, _, _, _⟩
    rw [list, list, list, list, list]
  | insert s =>
    show Node.insert ⟨_, _, _, _, _, _⟩ = Node.insert ⟨_, _, _, _, _, _⟩
    rw [list, rows]
  | update s =>
    show Node.update ⟨_, _, _, _, _⟩ = Node.update ⟨_, _, _, _, _⟩
    rw [list]
  | union s =>
    show Node.union ⟨_, _, _, _, _, _⟩ = Node.union ⟨_, _, _, _, _, _⟩
    rw [rows, list]
  | createTrigger s =>
    show Node.createTrigger ⟨_, _, _, _, _, _, _, _, _, _, _, _, _, _, _⟩ =
      Node.createTrigger ⟨_, _, _, _, _, _, _, _, _, _, _, _, _, _, _⟩
    rw [list, list?]
  | _ => rfl

/-- A fold applies its rule for nodes to the node with its parts folded. -/
theorem fold_node (n : Node Expr) :
    fold value sequence node (.node n) = node (n.map (fold value sequence node)) :=
  congrArg node (foldNode_eq_map value sequence node n)

theorem fold_sequence (isTuple : Bool) (items : List Expr) :
    fold value sequence node (.sequence isTuple items) =
      sequence isTuple (items.map (fold value sequence node)) :=
  congrArg (sequence isTuple) (foldList_eq_map value sequence node items)

theorem fold_value (v : Value) : fold value sequence node (.value v) = value v :=
  rfl

end Fold

/-- The missing expression. -/
def absent : Expr :=
  .value .null

/-- What a surrounding node sees of an expression. -/
def piece (g : Grammar) : Expr → Piece :=
  fold Piece.ofValue
    (fun isTuple items =>
      ⟨Piece.unrenderable (if isTuple then "tuple" else "list"), .items (Piece.drafts items),
        .sequence isTuple (items.map Piece.outline)⟩)
    (Node.piece g)

/-- What rendering an expression does. -/
def draft (g : Grammar) (e : Expr) : Draft :=
  (e.piece g).draft

/-- The outline of an expression. -/
def outline : Expr → Outline :=
  fold .value .sequence Node.outline

/-- The text of an expression. -/
def print (e : Expr) : String :=
  e.outline.print

/-- The text of an expression that is shown on its own. -/
def display (e : Expr) : String :=
  e.outline.display

/-- Whether two expressions are equal. -/
def same (e f : Expr) : Bool :=
  e.outline.same f.outline

/-- The digest of an expression, or the name of the type of a part that has none. -/
def digest (e : Expr) : Except String Digest :=
  e.outline.digest

/-- What an expression is where a text is expected. -/
def wording (e : Expr) : Wording :=
  .ofOutline e.outline

/-- Render an expression. -/
def render (d : Dialect) (e : Expr) : Rendering Unit :=
  (e.draft d.toGrammar).run d.placeholder

end Expr

end SqlRender
