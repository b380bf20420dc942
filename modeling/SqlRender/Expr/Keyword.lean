import SqlRender.Dialect.Feature

/-!
# Keywords

The fixed words that an expression may consist of. Each belongs to a family of alternatives, in
which it has a name and a text.
-/

namespace SqlRender

/-- The operators between two operands. -/
inductive BinaryOperator where
  | equal
  | notEqual
  | greaterThan
  | lessThan
  | greaterThanOrEqual
  | lessThanOrEqual
  | like
  | notLike
  | isIn
  | notIn
  | and
  | or
  | multiply
  | divide
  | modulo
  | add
  | subtract
  | is
  | isNot
  | concatenate
  deriving DecidableEq, Repr

instance : Named BinaryOperator where
  all := [.equal, .notEqual, .greaterThan, .lessThan, .greaterThanOrEqual, .lessThanOrEqual,
    .like, .notLike, .isIn, .notIn, .and, .or, .multiply, .divide, .modulo, .add, .subtract, .is,
    .isNot, .concatenate]
  name
    | .equal => "EQUAL"
    | .notEqual => "NOT_EQUAL"
    | .greaterThan => "GREATER_THAN"
    | .lessThan => "LESS_THAN"
    | .greaterThanOrEqual => "GREATER_THAN_OR_EQUAL"
    | .lessThanOrEqual => "LESS_THAN_OR_EQUAL"
    | .like => "LIKE"
    | .notLike => "NOT_LIKE"
    | .isIn => "IN"
    | .notIn => "NOT_IN"
    | .and => "AND"
    | .or => "OR"
    | .multiply => "MULTIPLY"
    | .divide => "DIVIDE"
    | .modulo => "MODULO"
    | .add => "ADD"
    | .subtract => "SUBTRACT"
    | .is => "IS"
    | .isNot => "IS_NOT"
    | .concatenate => "CONCATENATE"

/-- The text of the keyword. -/
def BinaryOperator.text : BinaryOperator → String
  | .equal => "="
  | .notEqual => "<>"
  | .greaterThan => ">"
  | .lessThan => "<"
  | .greaterThanOrEqual => ">="
  | .lessThanOrEqual => "<="
  | .like => "LIKE"
  | .notLike => "NOT LIKE"
  | .isIn => "IN"
  | .notIn => "NOT IN"
  | .and => "AND"
  | .or => "OR"
  | .multiply => "*"
  | .divide => "/"
  | .modulo => "%"
  | .add => "+"
  | .subtract => "-"
  | .is => "IS"
  | .isNot => "IS NOT"
  | .concatenate => "||"

/-- The direction of an ordering, and the marks of a column that may or may not be null. -/
inductive Direction where
  | ascending
  | descending
  | null
  | notNull
  deriving DecidableEq, Repr

instance : Named Direction where
  all := [.ascending, .descending, .null, .notNull]
  name
    | .ascending => "ASCENDING"
    | .descending => "DESCENDING"
    | .null => "NULL"
    | .notNull => "NOT_NULL"

/-- The text of the keyword. -/
def Direction.text : Direction → String
  | .ascending => "ASC"
  | .descending => "DESC"
  | .null => "NULL"
  | .notNull => "NOT NULL"

/-- What becomes of a row when the row it refers to goes or changes. -/
inductive ForeignKeyAction where
  | noAction
  | restrict
  | cascade
  | setNull
  | setDefault
  deriving DecidableEq, Repr

instance : Named ForeignKeyAction where
  all := [.noAction, .restrict, .cascade, .setNull, .setDefault]
  name
    | .noAction => "NO_ACTION"
    | .restrict => "RESTRICT"
    | .cascade => "CASCADE"
    | .setNull => "SET_NULL"
    | .setDefault => "SET_DEFAULT"

/-- The text of the keyword. -/
def ForeignKeyAction.text : ForeignKeyAction → String
  | .noAction => "NO ACTION"
  | .restrict => "RESTRICT"
  | .cascade => "CASCADE"
  | .setNull => "SET NULL"
  | .setDefault => "SET DEFAULT"

/-- What becomes of objects that depend on a removed one. -/
inductive DropBehavior where
  | restrict
  | cascade
  deriving DecidableEq, Repr

instance : Named DropBehavior where
  all := [.restrict, .cascade]
  name
    | .restrict => "RESTRICT"
    | .cascade => "CASCADE"

/-- The text of the keyword. -/
def DropBehavior.text : DropBehavior → String
  | .restrict => "RESTRICT"
  | .cascade => "CASCADE"

/-- Which rows a join keeps. -/
inductive JoinMethod where
  | inner
  | left
  | right
  deriving DecidableEq, Repr

instance : Named JoinMethod where
  all := [.inner, .left, .right]
  name
    | .inner => "INNER"
    | .left => "LEFT"
    | .right => "RIGHT"

/-- The text of the keyword. -/
def JoinMethod.text : JoinMethod → String
  | .inner => "INNER"
  | .left => "LEFT"
  | .right => "RIGHT"

/-- A request to lock the rows of a query. -/
inductive LockingClause where
  | update
  | share
  deriving DecidableEq, Repr

instance : Named LockingClause where
  all := [.update, .share]
  name
    | .update => "UPDATE"
    | .share => "SHARE"

/-- The text of the keyword. -/
def LockingClause.text : LockingClause → String
  | .update => "update"
  | .share => "share"

/-- The operators between queries. -/
inductive SetOperation where
  | union
  | unionAll
  | intersect
  | intersectAll
  | except
  | exceptAll
  deriving DecidableEq, Repr

instance : Named SetOperation where
  all := [.union, .unionAll, .intersect, .intersectAll, .except, .exceptAll]
  name
    | .union => "UNION"
    | .unionAll => "UNION_ALL"
    | .intersect => "INTERSECT"
    | .intersectAll => "INTERSECT_ALL"
    | .except => "EXCEPT"
    | .exceptAll => "EXCEPT_ALL"

/-- The text of the keyword. -/
def SetOperation.text : SetOperation → String
  | .union => "union"
  | .unionAll => "union_all"
  | .intersect => "intersect"
  | .intersectAll => "intersect_all"
  | .except => "except"
  | .exceptAll => "except_all"

/-- When a trigger runs: around the change that sets it off, or in its place. -/
inductive TriggerTime where
  | before
  | after
  | insteadOf
  deriving DecidableEq, Repr

instance : Named TriggerTime where
  all := [.before, .after, .insteadOf]
  name
    | .before => "BEFORE"
    | .after => "AFTER"
    | .insteadOf => "INSTEAD"

/-- The text of the keyword. -/
def TriggerTime.text : TriggerTime → String
  | .before => "BEFORE"
  | .after => "AFTER"
  | .insteadOf => "INSTEAD OF"

/-- The change that sets off a trigger. -/
inductive TriggerEvent where
  | insert
  | update
  | delete
  | truncate
  deriving DecidableEq, Repr

instance : Named TriggerEvent where
  all := [.insert, .update, .delete, .truncate]
  name
    | .insert => "INSERT"
    | .update => "UPDATE"
    | .delete => "DELETE"
    | .truncate => "TRUNCATE"

/-- The text of the keyword. -/
def TriggerEvent.text : TriggerEvent → String
  | .insert => "INSERT"
  | .update => "UPDATE"
  | .delete => "DELETE"
  | .truncate => "TRUNCATE"

/-- Whether a constraint trigger may wait for the end of the transaction. -/
inductive TriggerTiming where
  | deferrable
  | deferred
  | notDeferrable
  deriving DecidableEq, Repr

instance : Named TriggerTiming where
  all := [.deferrable, .deferred, .notDeferrable]
  name
    | .deferrable => "DEFERRABLE"
    | .deferred => "DEFERRED_BY_DEFAULT"
    | .notDeferrable => "NOT_DEFERRABLE"

/-- The text of the keyword. -/
def TriggerTiming.text : TriggerTiming → String
  | .deferrable => "DEFERRABLE INITIALLY IMMEDIATE"
  | .deferred => "DEFERRABLE INITIALLY DEFERRED"
  | .notDeferrable => "NOT DEFERRABLE"

/-- What a trigger runs for. -/
inductive TriggerEach where
  | row
  | statement
  deriving DecidableEq, Repr

instance : Named TriggerEach where
  all := [.row, .statement]
  name
    | .row => "ROW"
    | .statement => "STATEMENT"

/-- The text of the keyword. -/
def TriggerEach.text : TriggerEach → String
  | .row => "FOR EACH ROW"
  | .statement => "FOR EACH STATEMENT"

/-- The place of a trigger among others for the same change. -/
inductive TriggerOrder where
  | follows
  | precedes
  deriving DecidableEq, Repr

instance : Named TriggerOrder where
  all := [.follows, .precedes]
  name
    | .follows => "FOLLOWS"
    | .precedes => "PRECEDES"

/-- The text of the keyword. -/
def TriggerOrder.text : TriggerOrder → String
  | .follows => "FOLLOWS"
  | .precedes => "PRECEDES"

/-- A keyword of any family. -/
inductive Keyword where
  | operator (k : BinaryOperator)
  | direction (k : Direction)
  | foreignKeyAction (k : ForeignKeyAction)
  | dropBehavior (k : DropBehavior)
  | joinMethod (k : JoinMethod)
  | locking (k : LockingClause)
  | setOperation (k : SetOperation)
  | triggerTime (k : TriggerTime)
  | triggerEvent (k : TriggerEvent)
  | triggerTiming (k : TriggerTiming)
  | triggerEach (k : TriggerEach)
  | triggerOrder (k : TriggerOrder)
  deriving DecidableEq, Repr

namespace Keyword

/-- The name of a keyword's family. -/
def family : Keyword → String
  | .operator _ => "BinaryOperator"
  | .direction _ => "Direction"
  | .foreignKeyAction _ => "ForeignKeyAction"
  | .dropBehavior _ => "DropBehavior"
  | .joinMethod _ => "JoinMethod"
  | .locking _ => "LockingClause"
  | .setOperation _ => "UnionType"
  | .triggerTime _ => "TriggerWhen"
  | .triggerEvent _ => "TriggerEvent"
  | .triggerTiming _ => "TriggerTiming"
  | .triggerEach _ => "TriggerEach"
  | .triggerOrder _ => "TriggerOrder"

/-- The name of a keyword in its family. -/
def name : Keyword → String
  | .operator k => Named.name k
  | .direction k => Named.name k
  | .foreignKeyAction k => Named.name k
  | .dropBehavior k => Named.name k
  | .joinMethod k => Named.name k
  | .locking k => Named.name k
  | .setOperation k => Named.name k
  | .triggerTime k => Named.name k
  | .triggerEvent k => Named.name k
  | .triggerTiming k => Named.name k
  | .triggerEach k => Named.name k
  | .triggerOrder k => Named.name k

/-- The text of a keyword. -/
def text : Keyword → String
  | .operator k => k.text
  | .direction k => k.text
  | .foreignKeyAction k => k.text
  | .dropBehavior k => k.text
  | .joinMethod k => k.text
  | .locking k => k.text
  | .setOperation k => k.text
  | .triggerTime k => k.text
  | .triggerEvent k => k.text
  | .triggerTiming k => k.text
  | .triggerEach k => k.text
  | .triggerOrder k => k.text

/-- All keywords. -/
def all : List Keyword :=
  (Named.all.map .operator) ++
    (Named.all.map .direction) ++
    (Named.all.map .foreignKeyAction) ++
    (Named.all.map .dropBehavior) ++
    (Named.all.map .joinMethod) ++
    (Named.all.map .locking) ++
    (Named.all.map .setOperation) ++
    (Named.all.map .triggerTime) ++
    (Named.all.map .triggerEvent) ++
    (Named.all.map .triggerTiming) ++
    (Named.all.map .triggerEach) ++
    (Named.all.map .triggerOrder)

/-- The keyword with a name in a family. -/
def find? (family name : String) : Option Keyword :=
  all.find? fun k => k.family == family && k.name == name

end Keyword

end SqlRender
