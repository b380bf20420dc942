import SqlRender.Expr.Outline

/-!
# Flags

A flag is what stands where a yes or no is expected. It should be a truth value, but a tree takes
anything when it is built, and shows and compares it as it was given.
-/

namespace SqlRender

/-- What stands where a yes or no is expected. -/
inductive Flag where
  | bool (b : Bool)
  /-- Something else in place of a truth value. -/
  | other (o : Outline)
  deriving Inhabited

instance : Coe Bool Flag :=
  ⟨.bool⟩

namespace Flag

/-- The flag that an outline is. -/
def ofOutline : Outline → Flag
  | .value (.bool b) => .bool b
  | o => .other o

/-- The outline of a flag. -/
def outline : Flag → Outline
  | .bool b => .bool b
  | .other o => o

/-- Whether a flag counts as true. -/
def holds : Flag → Bool
  | .bool b => b
  | .other o => o.truthy

end Flag

end SqlRender
