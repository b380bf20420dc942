import SqlRender.Proofs.Expr.Parts

/-!
# Relabelling

What a tree carries besides its parts are labels: names, texts, values and settings. A relabelling
replaces them and leaves the tree as it is built.
-/

namespace SqlRender

/-- What becomes of the labels of a tree, by what they are for. Flags keep whether they hold. -/
structure Relabel where
  /-- Texts that are written as they are. -/
  wording : Wording → Wording := id
  name : Wording → Wording := id
  /-- A key on the path to a JSON value. -/
  key : Wording → Wording := id
  literal : Literal → Literal := id
  bind : Outline → Outline := id
  flag : Flag → Flag := id
  /-- What is given for a number of rows. -/
  count : Outline → Outline := id
  flag_holds : ∀ f, (flag f).holds = f.holds := by intro f; rfl

section Statements

variable {ε : Type} (r : Relabel)

def CreateTable.relabel (c : CreateTable ε) : CreateTable ε :=
  { c with temporary := r.flag c.temporary, ifNotExists := r.flag c.ifNotExists }

def DropTable.relabel (d : DropTable ε) : DropTable ε :=
  { d with ifExists := r.flag d.ifExists, temporary := r.flag d.temporary }

def DropIndex.relabel (d : DropIndex ε) : DropIndex ε :=
  { d with ifExists := r.flag d.ifExists }

def Select.relabel (s : Select ε) : Select ε :=
  { s with distinct := r.flag s.distinct, limit := r.count s.limit, offset := r.count s.offset }

def Union.relabel (u : Union ε) : Union ε :=
  { u with limit := r.count u.limit, offset := r.count u.offset }

def CreateTrigger.relabel (c : CreateTrigger ε) : CreateTrigger ε :=
  { c with isConstraint := r.flag c.isConstraint }

def DropTrigger.relabel (d : DropTrigger ε) : DropTrigger ε :=
  { d with ifExists := r.flag d.ifExists }

/-- A node with other labels. -/
def Node.relabel : Node ε → Node ε
  | .raw sql => .raw (r.wording sql)
  | .identifier name => .identifier (r.name name)
  | .literal l => .literal (r.literal l)
  | .bind value => .bind (r.bind value)
  | .list items separator => .list items (r.wording separator)
  | .call name args => .call (r.wording name) args
  | .clause word body => .clause (r.wording word) body
  | .subpath target path => .subpath target (path.map r.key)
  | .columnConstraint kind expression autoIncrement =>
    .columnConstraint kind expression (r.flag autoIncrement)
  | .dropEnum name ifExists cascade => .dropEnum name (r.flag ifExists) (r.flag cascade)
  | .commonTable label query columns recursive =>
    .commonTable label query columns (r.flag recursive)
  | .createTable s => .createTable (s.relabel r)
  | .dropTable s => .dropTable (s.relabel r)
  | .dropIndex s => .dropIndex (s.relabel r)
  | .select s => .select (s.relabel r)
  | .union s => .union (s.relabel r)
  | .createTrigger s => .createTrigger (s.relabel r)
  | .dropTrigger s => .dropTrigger (s.relabel r)
  | n => n

end Statements

theorem Node.relabel_map {α β : Type} (r : Relabel) (f : α → β) (n : Node α) :
    (n.map f).relabel r = (n.relabel r).map f := by
  cases n <;> rfl

theorem Node.parts_relabel {ε : Type} (r : Relabel) (n : Node ε) :
    (n.relabel r).parts = n.parts := by
  cases n <;> rfl

namespace Expr

variable (r : Relabel)

/-- An expression with other labels at its nodes. Values that stand in place of expressions are
kept. -/
def relabel : Expr → Expr :=
  fold .value .sequence fun n => .node (n.relabel r)

theorem relabel_value (v : Value) : (Expr.value v).relabel r = .value v := by
  rw [relabel, fold_value]

theorem relabel_sequence (isTuple : Bool) (items : List Expr) :
    (Expr.sequence isTuple items).relabel r = .sequence isTuple (items.map (relabel r)) := by
  rw [relabel, fold_sequence]

theorem relabel_node (n : Node Expr) :
    (Expr.node n).relabel r = .node ((n.relabel r).map (relabel r)) := by
  rw [relabel, fold_node, Node.relabel_map]

theorem parts_relabel (e : Expr) : (e.relabel r).parts = e.parts.map (relabel r) := by
  cases e with
  | value v => rw [relabel_value]; rfl
  | sequence isTuple items => rw [relabel_sequence]; rfl
  | node n => rw [relabel_node, parts, parts, Node.parts_map, Node.parts_relabel]

/-- A condition on a relabelled tree is one on the tree. -/
theorem Everywhere.relabel {P Q : Expr → Prop} (hPQ : ∀ e : Expr, Q e → P (e.relabel r)) {e : Expr}
    (h : Everywhere Q e) : Everywhere P (e.relabel r) := by
  induction h with
  | intro here _ ih =>
      refine .intro (hPQ _ here) ?_
      rw [parts_relabel]
      intro y hy
      obtain ⟨x, hx, rfl⟩ := List.mem_map.1 hy
      exact ih x hx

/-- A condition on a relabelled tree says something of the tree. -/
theorem Everywhere.of_relabel {P Q : Expr → Prop} (hPQ : ∀ e : Expr, P (e.relabel r) → Q e)
    {e : Expr} (h : Everywhere P (e.relabel r)) : Everywhere Q e := by
  have parts {e : Expr} (h : Everywhere P (e.relabel r)) :
      ∀ x ∈ e.parts, Everywhere P (x.relabel r) := by
    intro x hx
    refine h.inside _ ?_
    rw [parts_relabel]
    exact List.mem_map_of_mem hx
  -- the tree is taken apart and not its relabelling, from which the tree could not be told
  induction e using Expr.induction with
  | value v => exact .intro (hPQ _ h.here) (List.forall_mem_nil _)
  | sequence isTuple items ih => exact .intro (hPQ _ h.here) fun x hx => ih x hx (parts h x hx)
  | node n ih => exact .intro (hPQ _ h.here) fun x hx => ih x hx (parts h x hx)

end Expr

end SqlRender
