import SqlRender.Expr.Basic

/-!
# The parts of an expression

The expressions right below an expression, whatever its node is. Proofs go down a tree with
`Expr.induction` and need no case for each node: what a proof has to know of a node is `Node.parts`
and that `Node.map` goes to the parts and nowhere else.

A condition on all of a tree is said with `Expr.Everywhere`.
-/

namespace SqlRender

section Statements

variable {ε : Type}

/-- The parts of a statement in the order of its fields. -/
def CreateTable.parts (c : CreateTable ε) : List ε :=
  c.table :: c.asQuery :: (c.columns ++ c.tableConstraints)

def AlterTable.parts (a : AlterTable ε) : List ε :=
  a.table :: a.renameTo ::
    (a.addColumns ++ a.modifyColumns ++ a.dropColumns ++ a.addConstraints ++ a.dropConstraints)

def DropTable.parts (d : DropTable ε) : List ε :=
  [d.table, d.behavior]

def CreateIndex.parts (c : CreateIndex ε) : List ε :=
  c.name :: c.table :: c.modifier :: c.predicate :: c.columns

def DropIndex.parts (d : DropIndex ε) : List ε :=
  [d.name, d.owner, d.behavior]

def Select.parts (s : Select ε) : List ε :=
  s.predicate :: s.having :: s.locking ::
    (s.columns ++ s.tables ++ s.joins ++ s.groupBy ++ s.orderBy)

def Insert.parts (i : Insert ε) : List ε :=
  i.table :: i.query :: i.strategy :: i.returning :: (i.columns ++ i.rows.flatten)

def Update.parts (u : Update ε) : List ε :=
  u.table :: u.predicate :: u.returning :: u.withTables :: u.values

def Delete.parts (d : Delete ε) : List ε :=
  [d.table, d.predicate, d.returning, d.withTables]

def Union.parts (u : Union ε) : List ε :=
  u.initial :: u.withTables :: (u.members.flatten ++ u.orderBy)

def CreateTrigger.parts (c : CreateTrigger ε) : List ε :=
  c.name :: c.table :: c.time :: c.event :: c.timing :: c.referencedTable :: c.each ::
    c.condition :: c.procedure :: c.definer :: c.order :: c.orderTrigger ::
    (c.columns ++ c.body.getD [])

def DropTrigger.parts (d : DropTrigger ε) : List ε :=
  [d.name, d.table, d.behavior]

/-- The parts of a node. -/
def Node.parts : Node ε → List ε
  | .raw _ | .identifier _ | .literal _ | .bind _ | .keyword _ | .insertModifier => []
  | .list items _ | .group items | .call _ items | .template items | .enumDataType items
  | .distinct items | .commonTables items | .returning items => items
  | .operation left operator right => [left, operator, right]
  | .clause _ e | .subpath e _ | .dataType _ e | .columnConstraint _ e _ | .excludedColumn e
  | .dropEnum e _ _ | .subquery e | .unionSubquery e | .unionJoiner e => [e]
  | .column e f | .qualifiedTable e f | .labelled e f | .constraint e f | .alterColumnType e f
  | .alterEnum e f | .orderBy e f | .assignment e f => [e, f]
  | .between e f h | .join e f h => [e, f, h]
  | .case cases operand alternative => operand :: alternative :: cases.flatten
  | .tableConstraint _ columns expression => expression :: columns
  | .foreignKey table columns onDelete onUpdate => table :: onDelete :: onUpdate :: columns
  | .columnDefinition target type constraints => target :: type :: constraints
  | .createEnum name values => name :: values
  | .commonTable label query columns _ => label :: query :: columns
  | .conflictAction assignments filter => filter :: assignments.getD []
  | .conflictStrategy targets action => action :: targets
  | .createTable s => s.parts
  | .alterTable s => s.parts
  | .dropTable s => s.parts
  | .createIndex s => s.parts
  | .dropIndex s => s.parts
  | .select s => s.parts
  | .insert s => s.parts
  | .update s => s.parts
  | .delete s => s.parts
  | .union s => s.parts
  | .createTrigger s => s.parts
  | .dropTrigger s => s.parts

end Statements

theorem Node.parts_map {α β : Type} (f : α → β) (n : Node α) :
    (n.map f).parts = n.parts.map f := by
  cases n with
  | case cases operand alternative => simp [Node.map, Node.parts, List.map_flatten]
  | conflictAction assignments filter => cases assignments <;> simp [Node.map, Node.parts]
  | createTable s => simp [Node.map, Node.parts, CreateTable.map, CreateTable.parts]
  | alterTable s => simp [Node.map, Node.parts, AlterTable.map, AlterTable.parts]
  | select s => simp [Node.map, Node.parts, Select.map, Select.parts]
  | insert s => simp [Node.map, Node.parts, Insert.map, Insert.parts, List.map_flatten]
  | union s => simp [Node.map, Node.parts, Union.map, Union.parts, List.map_flatten]
  | createTrigger s =>
      simp only [Node.map, Node.parts, CreateTrigger.map, CreateTrigger.parts, List.map_cons,
        List.map_append]
      cases s.body <;> rfl
  | _ => rfl

theorem Node.map_map {α β γ : Type} (f : α → β) (k : β → γ) (n : Node α) :
    (n.map f).map k = n.map (k ∘ f) := by
  cases n with
  | case cases operand alternative => simp [Node.map]
  | conflictAction assignments filter => simp [Node.map, Option.map_map, Function.comp_def]
  | createTable s => simp [Node.map, CreateTable.map]
  | alterTable s => simp [Node.map, AlterTable.map]
  | createIndex s => simp [Node.map, CreateIndex.map]
  | select s => simp [Node.map, Select.map]
  | insert s => simp [Node.map, Insert.map]
  | update s => simp [Node.map, Update.map]
  | union s => simp [Node.map, Union.map]
  | createTrigger s => simp [Node.map, CreateTrigger.map, Option.map_map, Function.comp_def]
  | dropTable _ | dropIndex _ | delete _ | dropTrigger _ => rfl
  | _ => simp [Node.map]

section Congruence

variable {α β : Type} {f f' : α → β}

theorem map_rows_congr {xss : List (List α)} (h : ∀ x ∈ xss.flatten, f x = f' x) :
    xss.map (·.map f) = xss.map (·.map f') :=
  List.map_congr_left fun _ hxs => List.map_congr_left fun x hx =>
    h x (List.mem_flatten_of_mem hxs hx)

theorem map_list?_congr {es : Option (List α)} (h : ∀ x ∈ es.getD [], f x = f' x) :
    es.map (·.map f) = es.map (·.map f') := by
  cases es with
  | none => rfl
  | some es => exact congrArg some (List.map_congr_left h)

theorem CreateTable.map_congr {c : CreateTable α} (h : ∀ x ∈ c.parts, f x = f' x) :
    c.map f = c.map f' := by
  simp only [parts, List.forall_mem_cons, List.forall_mem_append] at h
  obtain ⟨htable, hquery, hcolumns, hconstraints⟩ := h
  simp only [map, htable, hquery, List.map_congr_left hcolumns, List.map_congr_left hconstraints]

theorem AlterTable.map_congr {a : AlterTable α} (h : ∀ x ∈ a.parts, f x = f' x) :
    a.map f = a.map f' := by
  simp only [parts, List.forall_mem_cons, List.forall_mem_append] at h
  obtain ⟨htable, hname, ⟨⟨⟨hadd, hmodify⟩, hdrop⟩, hconstrain⟩, hrelease⟩ := h
  simp only [map, htable, hname, List.map_congr_left hadd, List.map_congr_left hmodify,
    List.map_congr_left hdrop, List.map_congr_left hconstrain, List.map_congr_left hrelease]

theorem DropTable.map_congr {d : DropTable α} (h : ∀ x ∈ d.parts, f x = f' x) :
    d.map f = d.map f' := by
  simp only [parts, List.forall_mem_cons] at h
  obtain ⟨htable, hbehavior, -⟩ := h
  simp only [map, htable, hbehavior]

theorem CreateIndex.map_congr {c : CreateIndex α} (h : ∀ x ∈ c.parts, f x = f' x) :
    c.map f = c.map f' := by
  simp only [parts, List.forall_mem_cons] at h
  obtain ⟨hname, htable, hmodifier, hpredicate, hcolumns⟩ := h
  simp only [map, hname, htable, hmodifier, hpredicate, List.map_congr_left hcolumns]

theorem DropIndex.map_congr {d : DropIndex α} (h : ∀ x ∈ d.parts, f x = f' x) :
    d.map f = d.map f' := by
  simp only [parts, List.forall_mem_cons] at h
  obtain ⟨hname, howner, hbehavior, -⟩ := h
  simp only [map, hname, howner, hbehavior]

theorem Select.map_congr {s : Select α} (h : ∀ x ∈ s.parts, f x = f' x) :
    s.map f = s.map f' := by
  simp only [parts, List.forall_mem_cons, List.forall_mem_append] at h
  obtain ⟨hpredicate, hhaving, hlocking, ⟨⟨⟨hcolumns, htables⟩, hjoins⟩, hgroup⟩, horder⟩ := h
  simp only [map, hpredicate, hhaving, hlocking, List.map_congr_left hcolumns,
    List.map_congr_left htables, List.map_congr_left hjoins, List.map_congr_left hgroup,
    List.map_congr_left horder]

theorem Insert.map_congr {i : Insert α} (h : ∀ x ∈ i.parts, f x = f' x) :
    i.map f = i.map f' := by
  simp only [parts, List.forall_mem_cons, List.forall_mem_append] at h
  obtain ⟨htable, hquery, hstrategy, hreturning, hcolumns, hrows⟩ := h
  simp only [map, htable, hquery, hstrategy, hreturning, List.map_congr_left hcolumns,
    map_rows_congr hrows]

theorem Update.map_congr {u : Update α} (h : ∀ x ∈ u.parts, f x = f' x) :
    u.map f = u.map f' := by
  simp only [parts, List.forall_mem_cons] at h
  obtain ⟨htable, hpredicate, hreturning, htables, hvalues⟩ := h
  simp only [map, htable, hpredicate, hreturning, htables, List.map_congr_left hvalues]

theorem Delete.map_congr {d : Delete α} (h : ∀ x ∈ d.parts, f x = f' x) :
    d.map f = d.map f' := by
  simp only [parts, List.forall_mem_cons] at h
  obtain ⟨htable, hpredicate, hreturning, htables, -⟩ := h
  simp only [map, htable, hpredicate, hreturning, htables]

theorem Union.map_congr {u : Union α} (h : ∀ x ∈ u.parts, f x = f' x) :
    u.map f = u.map f' := by
  simp only [parts, List.forall_mem_cons, List.forall_mem_append] at h
  obtain ⟨hinitial, htables, hmembers, horder⟩ := h
  simp only [map, hinitial, htables, map_rows_congr hmembers, List.map_congr_left horder]

theorem CreateTrigger.map_congr {c : CreateTrigger α} (h : ∀ x ∈ c.parts, f x = f' x) :
    c.map f = c.map f' := by
  simp only [parts, List.forall_mem_cons, List.forall_mem_append] at h
  obtain ⟨hname, htable, htime, hevent, htiming, hreferenced, heach, hcondition, hprocedure,
    hdefiner, horder, htrigger, hcolumns, hbody⟩ := h
  simp only [map, hname, htable, htime, hevent, htiming, hreferenced, heach, hcondition,
    hprocedure, hdefiner, horder, htrigger, List.map_congr_left hcolumns, map_list?_congr hbody]

theorem DropTrigger.map_congr {d : DropTrigger α} (h : ∀ x ∈ d.parts, f x = f' x) :
    d.map f = d.map f' := by
  simp only [parts, List.forall_mem_cons] at h
  obtain ⟨hname, htable, hbehavior, -⟩ := h
  simp only [map, hname, htable, hbehavior]

/-- A function that is applied to every part is applied nowhere else. -/
theorem Node.map_congr {n : Node α} (h : ∀ x ∈ n.parts, f x = f' x) : n.map f = n.map f' := by
  cases n with
  | raw _ | identifier _ | literal _ | bind _ | keyword _ | insertModifier => rfl
  | list items _ | group items | call _ items | template items | enumDataType items
  | distinct items | commonTables items | returning items =>
      have hitems : items.map f = items.map f' := List.map_congr_left h
      rw [Node.map, Node.map, hitems]
  | clause _ e | subpath e _ | dataType _ e | columnConstraint _ e _ | excludedColumn e
  | dropEnum e _ _ | subquery e | unionSubquery e | unionJoiner e =>
      rw [Node.map, Node.map, h e (.head _)]
  | column e t | qualifiedTable e t | labelled e t | constraint e t | alterColumnType e t
  | alterEnum e t | orderBy e t | assignment e t =>
      rw [Node.map, Node.map, h e (.head _), h t (.tail _ (.head _))]
  | operation e t u | between e t u | join e t u =>
      rw [Node.map, Node.map, h e (.head _), h t (.tail _ (.head _)),
        h u (.tail _ (.tail _ (.head _)))]
  | tableConstraint _ es e | createEnum e es | conflictStrategy es e =>
      obtain ⟨he, hes⟩ := List.forall_mem_cons.1 h
      rw [Node.map, Node.map, he, List.map_congr_left hes]
  | columnDefinition e t es | commonTable e t es _ =>
      obtain ⟨he, hrest⟩ := List.forall_mem_cons.1 h
      obtain ⟨ht, hes⟩ := List.forall_mem_cons.1 hrest
      rw [Node.map, Node.map, he, ht, List.map_congr_left hes]
  | foreignKey table columns onDelete onUpdate =>
      simp only [parts, List.forall_mem_cons] at h
      obtain ⟨htable, hdelete, hupdate, hcolumns⟩ := h
      rw [Node.map, Node.map, htable, hdelete, hupdate, List.map_congr_left hcolumns]
  | case cases operand alternative =>
      simp only [parts, List.forall_mem_cons] at h
      obtain ⟨hoperand, halternative, hcases⟩ := h
      rw [Node.map, Node.map, hoperand, halternative, map_rows_congr hcases]
  | conflictAction assignments filter =>
      obtain ⟨hfilter, hassignments⟩ := List.forall_mem_cons.1 h
      rw [Node.map, Node.map, hfilter, map_list?_congr hassignments]
  | createTable s => rw [Node.map, Node.map, s.map_congr h]
  | alterTable s => rw [Node.map, Node.map, s.map_congr h]
  | dropTable s => rw [Node.map, Node.map, s.map_congr h]
  | createIndex s => rw [Node.map, Node.map, s.map_congr h]
  | dropIndex s => rw [Node.map, Node.map, s.map_congr h]
  | select s => rw [Node.map, Node.map, s.map_congr h]
  | insert s => rw [Node.map, Node.map, s.map_congr h]
  | update s => rw [Node.map, Node.map, s.map_congr h]
  | delete s => rw [Node.map, Node.map, s.map_congr h]
  | union s => rw [Node.map, Node.map, s.map_congr h]
  | createTrigger s => rw [Node.map, Node.map, s.map_congr h]
  | dropTrigger s => rw [Node.map, Node.map, s.map_congr h]

end Congruence

namespace Expr

/-- The piece of a node is drafted from the pieces of its parts. -/
theorem piece_node (g : Grammar) (n : Node Expr) :
    (Expr.node n).piece g = (n.map (piece g)).piece g := by
  rw [piece, fold_node]

/-- A node is drafted from the pieces of its parts. -/
theorem draft_node (g : Grammar) (n : Node Expr) :
    (Expr.node n).draft g = (n.map (piece g)).draft g := by
  rw [draft, piece_node]
  rfl

theorem piece_value (g : Grammar) (v : Value) : (Expr.value v).piece g = .ofValue v := by
  rw [piece, fold_value]

theorem piece_sequence (g : Grammar) (isTuple : Bool) (items : List Expr) :
    (Expr.sequence isTuple items).piece g =
      ⟨Piece.unrenderable (if isTuple then "tuple" else "list"),
        .items (Piece.drafts (items.map (piece g))),
        .sequence isTuple ((items.map (piece g)).map Piece.outline)⟩ := by
  rw [piece, fold_sequence]

section Induction

set_option linter.unusedSectionVars false

variable {motive : Expr → Prop} (value : ∀ v, motive (.value v))
  (sequence : ∀ isTuple items, (∀ e ∈ items, motive e) → motive (.sequence isTuple items))
  (node : ∀ n : Node Expr, (∀ e ∈ n.parts, motive e) → motive (.node n))

include value sequence node

mutual

/-- What holds of an expression as soon as it holds of its parts holds of all expressions. -/
theorem induction : ∀ e, motive e
  | .value v => value v
  | .sequence isTuple items => sequence isTuple items (inductionList items)
  | .node n => node n (inductionNode n)

theorem inductionList : ∀ es : List Expr, ∀ e ∈ es, motive e
  | [] => List.forall_mem_nil motive
  | e :: es => List.forall_mem_cons.2 ⟨induction e, inductionList es⟩

theorem inductionRows : ∀ rows : List (List Expr), ∀ e ∈ rows.flatten, motive e
  | [] => List.forall_mem_nil motive
  | row :: rows => List.forall_mem_append.2 ⟨inductionList row, inductionRows rows⟩

theorem inductionList? : ∀ es : Option (List Expr), ∀ e ∈ es.getD [], motive e
  | none => List.forall_mem_nil motive
  | some es => inductionList es

theorem inductionNode : ∀ n : Node Expr, ∀ e ∈ n.parts, motive e
  | .raw _ | .identifier _ | .literal _ | .bind _ | .keyword _ | .insertModifier =>
    List.forall_mem_nil motive
  | .list items _ | .group items | .call _ items | .template items | .enumDataType items
  | .distinct items | .commonTables items | .returning items => inductionList items
  | .clause _ e | .subpath e _ | .dataType _ e | .columnConstraint _ e _ | .excludedColumn e
  | .dropEnum e _ _ | .subquery e | .unionSubquery e | .unionJoiner e => by
    simpa only [Node.parts, List.forall_mem_singleton] using induction e
  | .column e f | .qualifiedTable e f | .labelled e f | .constraint e f | .alterColumnType e f
  | .alterEnum e f | .orderBy e f | .assignment e f => by
    simpa only [Node.parts, List.forall_mem_cons, List.not_mem_nil, false_imp_iff,
      implies_true, and_true] using
      ⟨induction e, induction f⟩
  | .operation e f h | .between e f h | .join e f h => by
    simpa only [Node.parts, List.forall_mem_cons, List.not_mem_nil, false_imp_iff,
      implies_true, and_true] using
      ⟨induction e, induction f, induction h⟩
  | .case cases operand alternative =>
    List.forall_mem_cons.2 ⟨induction operand,
      List.forall_mem_cons.2 ⟨induction alternative, inductionRows cases⟩⟩
  | .tableConstraint _ es e | .createEnum e es | .conflictStrategy es e =>
    List.forall_mem_cons.2 ⟨induction e, inductionList es⟩
  | .foreignKey table columns onDelete onUpdate => by
    simpa only [Node.parts, List.forall_mem_cons] using
      ⟨induction table, induction onDelete, induction onUpdate, inductionList columns⟩
  | .columnDefinition e f es | .commonTable e f es _ =>
    List.forall_mem_cons.2 ⟨induction e, List.forall_mem_cons.2 ⟨induction f, inductionList es⟩⟩
  | .conflictAction assignments filter =>
    List.forall_mem_cons.2 ⟨induction filter, inductionList? assignments⟩
  | .createTable ⟨table, columns, tableConstraints, _, _, asQuery⟩ => by
    simpa only [Node.parts, CreateTable.parts, List.forall_mem_cons, List.forall_mem_append] using
      ⟨induction table, induction asQuery, inductionList columns, inductionList tableConstraints⟩
  | .alterTable ⟨table, renameTo, addColumns, modifyColumns, dropColumns, addConstraints,
      dropConstraints⟩ => by
    simpa only [Node.parts, AlterTable.parts, List.forall_mem_cons, List.forall_mem_append,
      and_assoc] using
      ⟨induction table, induction renameTo, inductionList addColumns, inductionList modifyColumns,
        inductionList dropColumns, inductionList addConstraints, inductionList dropConstraints⟩
  | .dropTable ⟨table, _, behavior, _⟩ => by
    simpa only [Node.parts, DropTable.parts, List.forall_mem_cons, List.not_mem_nil, false_imp_iff,
      implies_true, and_true] using ⟨induction table, induction behavior⟩
  | .createIndex ⟨name, table, columns, modifier, predicate⟩ => by
    simpa only [Node.parts, CreateIndex.parts, List.forall_mem_cons] using
      ⟨induction name, induction table, induction modifier, induction predicate,
        inductionList columns⟩
  | .dropIndex ⟨name, _, owner, behavior⟩ => by
    simpa only [Node.parts, DropIndex.parts, List.forall_mem_cons, List.not_mem_nil, false_imp_iff,
      implies_true, and_true] using ⟨induction name, induction owner, induction behavior⟩
  | .select ⟨columns, tables, _, joins, predicate, groupBy, having, orderBy, _, _, locking⟩ => by
    simpa only [Node.parts, Select.parts, List.forall_mem_cons, List.forall_mem_append,
      and_assoc] using
      ⟨induction predicate, induction having, induction locking, inductionList columns,
        inductionList tables, inductionList joins, inductionList groupBy, inductionList orderBy⟩
  | .insert ⟨table, columns, rows, query, strategy, returning⟩ => by
    simpa only [Node.parts, Insert.parts, List.forall_mem_cons, List.forall_mem_append] using
      ⟨induction table, induction query, induction strategy, induction returning,
        inductionList columns, inductionRows rows⟩
  | .update ⟨table, values, predicate, returning, withTables⟩ => by
    simpa only [Node.parts, Update.parts, List.forall_mem_cons] using
      ⟨induction table, induction predicate, induction returning, induction withTables,
        inductionList values⟩
  | .delete ⟨table, predicate, returning, withTables⟩ => by
    simpa only [Node.parts, Delete.parts, List.forall_mem_cons, List.not_mem_nil, false_imp_iff,
      implies_true, and_true] using
      ⟨induction table, induction predicate, induction returning, induction withTables⟩
  | .union ⟨initial, members, orderBy, _, _, withTables⟩ => by
    simpa only [Node.parts, Union.parts, List.forall_mem_cons, List.forall_mem_append] using
      ⟨induction initial, induction withTables, inductionRows members, inductionList orderBy⟩
  | .createTrigger ⟨name, table, time, event, columns, _, timing, referencedTable, each,
      condition, procedure, definer, body, order, orderTrigger⟩ => by
    simpa only [Node.parts, CreateTrigger.parts, List.forall_mem_cons, List.forall_mem_append]
      using
      ⟨induction name, induction table, induction time, induction event, induction timing,
        induction referencedTable, induction each, induction condition, induction procedure,
        induction definer, induction order, induction orderTrigger, inductionList columns,
        inductionList? body⟩
  | .dropTrigger ⟨name, table, _, behavior⟩ => by
    simpa only [Node.parts, DropTrigger.parts, List.forall_mem_cons, List.not_mem_nil,
      false_imp_iff, implies_true, and_true] using
      ⟨induction name, induction table, induction behavior⟩

end

end Induction

/-- A function after a fold is a fold, if it goes with the rules of the fold. -/
theorem fold_fusion {α β : Type} {value : Value → α} {sequence : Bool → List α → α}
    {node : Node α → α} {value' : Value → β} {sequence' : Bool → List β → β}
    {node' : Node β → β} (k : α → β) (hvalue : ∀ v, k (value v) = value' v)
    (hsequence : ∀ isTuple xs, k (sequence isTuple xs) = sequence' isTuple (xs.map k))
    (hnode : ∀ n, k (node n) = node' (n.map k)) (e : Expr) :
    k (fold value sequence node e) = fold value' sequence' node' e := by
  induction e using Expr.induction with
  | value v => rw [fold_value, fold_value, hvalue]
  | sequence isTuple items ih =>
      rw [fold_sequence, fold_sequence, hsequence, List.map_map]
      exact congrArg (sequence' isTuple) (List.map_congr_left ih)
  | node n ih =>
      rw [fold_node, fold_node, hnode, Node.map_map]
      exact congrArg node' (Node.map_congr ih)

/-- The expressions right below an expression. -/
def parts : Expr → List Expr
  | .value _ => []
  | .sequence _ items => items
  | .node n => n.parts

/-- A condition holds of an expression and of everything below it. -/
inductive Everywhere (P : Expr → Prop) : Expr → Prop where
  | intro {e : Expr} : P e → (∀ x ∈ e.parts, Everywhere P x) → Everywhere P e

namespace Everywhere

variable {P Q : Expr → Prop} {e : Expr}

theorem here (h : Everywhere P e) : P e := by
  cases h with
  | intro here _ => exact here

theorem inside (h : Everywhere P e) : ∀ x ∈ e.parts, Everywhere P x := by
  cases h with
  | intro _ inside => exact inside

theorem of_forall (h : ∀ e, P e) (e : Expr) : Everywhere P e := by
  induction e using Expr.induction with
  | value v => exact .intro (h _) (List.forall_mem_nil _)
  | sequence isTuple items ih => exact .intro (h _) ih
  | node n ih => exact .intro (h _) ih

theorem mono (hPQ : ∀ {e}, P e → Q e) (h : Everywhere P e) : Everywhere Q e := by
  induction h with
  | intro here _ ih => exact .intro (hPQ here) ih

theorem and (h : Everywhere P e) (h' : Everywhere Q e) : Everywhere (fun x => P x ∧ Q x) e := by
  induction h with
  | intro here _ ih => exact .intro ⟨here, h'.here⟩ fun x hx => ih x hx (h'.inside x hx)

@[simp] theorem value_iff {v : Value} : Everywhere P (.value v) ↔ P (.value v) :=
  ⟨here, fun h => .intro h (List.forall_mem_nil _)⟩

@[simp] theorem sequence_iff {isTuple : Bool} {items : List Expr} :
    Everywhere P (.sequence isTuple items) ↔
      P (.sequence isTuple items) ∧ ∀ x ∈ items, Everywhere P x :=
  ⟨fun h => ⟨h.here, h.inside⟩, fun h => .intro h.1 h.2⟩

@[simp] theorem node_iff {n : Node Expr} :
    Everywhere P (.node n) ↔ P (.node n) ∧ ∀ x ∈ n.parts, Everywhere P x :=
  ⟨fun h => ⟨h.here, h.inside⟩, fun h => .intro h.1 h.2⟩

end Everywhere

end Expr

/-- What is listed in pairs is read in pairs. -/
theorem Piece.pairs_map {α : Type} (first second : α → Piece) (xs : List α) :
    pairs (xs.map fun x => [first x, second x]) = .ok (xs.map fun x => (first x, second x)) := by
  induction xs with
  | nil => rfl
  | cons x xs ih =>
      rw [List.map_cons, pairs, ih]
      rfl

end SqlRender
