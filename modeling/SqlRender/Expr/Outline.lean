import SqlRender.Expr.Keyword
import SqlRender.Value

/-!
# Outlines

The outline of an expression is the name of its class and its fields by name, whatever the class.
How an expression is shown, which expressions are equal and what they are filed under is said on
outlines, once for all classes.
-/

namespace SqlRender

/-- An expression as its class and its fields. -/
inductive Outline where
  | value (v : Value)
  /-- A sequence with expressions in it, a tuple or a list. -/
  | sequence (isTuple : Bool) (items : List Outline)
  | keyword (k : Keyword)
  | record (name : String) (fields : List (String × Outline))
  /-- A template, which has no fields but fragments. -/
  | template (fragments : List Outline)
  /-- A thing without fields, which equals nothing but itself. -/
  | token (name : String)
  deriving Inhabited

namespace Outline

/-- A tuple of outlines. -/
def tuple (items : List Outline) : Outline :=
  .sequence true items

/-- A text in a field. -/
def text (s : String) : Outline :=
  .value (.text s)

/-- A truth value in a field. -/
def bool (b : Bool) : Outline :=
  .value (.bool b)

/-- The name of the type of what an outline stands for, as messages give it. -/
def typeName : Outline → String
  | .value v => v.typeName
  | .sequence isTuple _ => if isTuple then "tuple" else "list"
  | .keyword k => k.family
  | .record name _ => name
  | .template _ => "QueryString"
  | .token name => name

/-- How many members what an outline stands for has, if it is something that has members. -/
def size? : Outline → Option Nat
  | .value v => v.members?.map List.length
  | .sequence _ items => some items.length
  | _ => none

/-- Whether what an outline stands for counts as true, as every expression does. -/
def truthy : Outline → Bool
  | .value v => v.truthy
  | .sequence _ items => !items.isEmpty
  | _ => true

end Outline

end SqlRender
