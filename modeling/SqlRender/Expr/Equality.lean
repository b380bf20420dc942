import SqlRender.Expr.Outline
import SqlRender.Value.Equality

/-!
# Equality and digests of expressions

Two expressions are equal if they are of the same class and have equal fields. The digest of an
expression is that of its fields, so that equal expressions are filed together; expressions of
different classes with the same fields are too.
-/

namespace SqlRender

namespace Outline

mutual

/-- Equality of outlines. A token equals no other. -/
def same : Outline → Outline → Bool
  | .value v, .value w => v.same w
  | .sequence isTuple xs, .sequence isTuple' ys => isTuple == isTuple' && sameItems xs ys
  | .keyword k, .keyword k' => k == k'
  | .record name fields, .record name' fields' => name == name' && sameFields fields fields'
  | .template xs, .template ys => sameItems xs ys
  | _, _ => false

/-- Equality of items one by one. -/
def sameItems : List Outline → List Outline → Bool
  | [], [] => true
  | x :: xs, y :: ys => same x y && sameItems xs ys
  | _, _ => false

/-- Equality of fields one by one. -/
def sameFields : List (String × Outline) → List (String × Outline) → Bool
  | [], [] => true
  | (_, x) :: xs, (_, y) :: ys => same x y && sameFields xs ys
  | _, _ => false

end

mutual

/-- The digest of an outline, or the name of a type that has none. -/
def digest : Outline → Except String Digest
  | .value v => v.digest
  | .sequence isTuple items => if isTuple then (digests items).map .tuple else .error "list"
  | .keyword k => .ok (Digest.ofText k.name)
  | .record _ fields => (fieldDigests fields).map .tuple
  | .template fragments => (digests fragments).map .tuple
  | .token _ => .ok .unlike

/-- The digests of items, up to the first that has none. -/
def digests : List Outline → Except String (List Digest)
  | [] => .ok []
  | x :: xs =>
    match digest x with
    | .error name => .error name
    | .ok d => (digests xs).map (d :: ·)

/-- The digests of fields, up to the first that has none. -/
def fieldDigests : List (String × Outline) → Except String (List Digest)
  | [] => .ok []
  | (_, x) :: fields =>
    match digest x with
    | .error name => .error name
    | .ok d => (fieldDigests fields).map (d :: ·)

end

end Outline

end SqlRender
