/-!
# Features

Which set operators and which clauses of a trigger a database takes is described by sets of
features.
-/

namespace SqlRender

/-- A type with finitely many members that have names. -/
class Named (α : Type) where
  /-- All members, in the order of their declaration. -/
  all : List α
  /-- The name of a member. -/
  name : α → String

/-- The member with a name. -/
def Named.find? {α : Type} [Named α] (name : String) : Option α :=
  (Named.all (α := α)).find? fun a => Named.name a == name

/-- A set of features. -/
structure FeatureSet (α : Type) where
  has : α → Bool

namespace FeatureSet

variable {α : Type}

/-- The empty set. -/
def none : FeatureSet α :=
  ⟨fun _ => false⟩

/-- The set of the listed features. -/
def ofList [DecidableEq α] (features : List α) : FeatureSet α :=
  ⟨fun a => features.contains a⟩

/-- The features in either set. -/
def union (s t : FeatureSet α) : FeatureSet α :=
  ⟨fun a => s.has a || t.has a⟩

/-- The features in both sets. -/
def inter (s t : FeatureSet α) : FeatureSet α :=
  ⟨fun a => s.has a && t.has a⟩

/-- The features of a set, in the order of their declaration. -/
def toList [Named α] (s : FeatureSet α) : List α :=
  Named.all.filter s.has

/-- Whether a set holds all features of another. -/
def includes [Named α] (s t : FeatureSet α) : Bool :=
  t.toList.all s.has

/-- The names of the features of a set. -/
def names [Named α] (s : FeatureSet α) : List String :=
  s.toList.map Named.name

end FeatureSet

/-- What a database understands of operators between queries. -/
inductive UnionFeature where
  | union
  | unionAll
  | intersect
  | intersectAll
  | except
  | exceptAll
  /-- The word DISTINCT is written after operators that remove duplicates. -/
  | explicitDistinct
  /-- Each member of a union stands in parentheses. -/
  | parenthesizedMembers
  deriving DecidableEq, Repr

instance : Named UnionFeature where
  all := [.union, .unionAll, .intersect, .intersectAll, .except, .exceptAll, .explicitDistinct,
    .parenthesizedMembers]
  name
    | .union => "UNION"
    | .unionAll => "UNION_ALL"
    | .intersect => "INTERSECT"
    | .intersectAll => "INTERSECT_ALL"
    | .except => "EXCEPT"
    | .exceptAll => "EXCEPT_ALL"
    | .explicitDistinct => "EXPLICIT_DISTINCT"
    | .parenthesizedMembers => "PARENTHESIZED_SUBQUERIES"

/-- What a database understands of the creation of triggers. -/
inductive TriggerCreateFeature where
  /-- Every trigger is declared to run for each row. -/
  | rowRequired
  /-- A trigger has a body of statements and not a procedure. -/
  | body
  | condition
  | definer
  | forEach
  | order
  | updateColumns
  | constraints
  /-- Combinations of clauses that contradict each other are refused. -/
  | consistency
  | parenthesizedCondition
  deriving DecidableEq, Repr

instance : Named TriggerCreateFeature where
  all := [.rowRequired, .body, .condition, .definer, .forEach, .order, .updateColumns, .constraints,
    .consistency, .parenthesizedCondition]
  name
    | .rowRequired => "REQUIRES_FOR_EACH_ROW"
    | .body => "SUPPORTS_BODY"
    | .condition => "SUPPORTS_CONDITION"
    | .definer => "SUPPORTS_DEFINER"
    | .forEach => "SUPPORTS_FOR_EACH"
    | .order => "SUPPORTS_ORDER"
    | .updateColumns => "SUPPORTS_UPDATE_COLUMNS"
    | .constraints => "SUPPORTS_CONSTRAINTS"
    | .consistency => "POSTGRESQL_CHECKS"
    | .parenthesizedCondition => "CONDITION_REQUIRES_PARENTHESES"

/-- What a database understands of the removal of triggers. -/
inductive TriggerDropFeature where
  | tableName
  | behavior
  deriving DecidableEq, Repr

instance : Named TriggerDropFeature where
  all := [.tableName, .behavior]
  name
    | .tableName => "SUPPORTS_TABLE_NAME"
    | .behavior => "SUPPORTS_CASCADE"

end SqlRender
