/-!
# Faults and warnings

Rendering fails only on a tree that could not have been built correctly. What a database does not
support never fails: it is left out or written anyway, with a warning.
-/

namespace SqlRender

/-- A rule that a tree of expressions must keep. -/
inductive Rule where
  | subpathNotEmpty
  | updateNotEmpty
  | insteadOfWithoutColumns
  | insteadOfForEachRow
  | columnsOnUpdate
  | insteadOfWithoutCondition
  | constraintAfter
  | constraintForEachRow
  | timingOnConstraint
  | definerUnderstood
  | bodyGiven
  | procedureGiven
  deriving DecidableEq, Repr

/-- The text for a rule that is broken. -/
def Rule.message : Rule → String
  | .subpathNotEmpty => "A nested subpath must contain at least one path element."
  | .updateNotEmpty =>
    "An update conflict action needs at least one assignment; use no_action() instead."
  | .insteadOfWithoutColumns => "INSTEAD OF UPDATE triggers do not support lists of columns."
  | .insteadOfForEachRow => "INSTEAD OF triggers must be FOR EACH ROW."
  | .columnsOnUpdate => "Only UPDATE triggers may specify a list of columns."
  | .insteadOfWithoutCondition => "INSTEAD OF triggers do not support WHEN conditions."
  | .constraintAfter => "CONSTRAINT triggers may only be AFTER triggers."
  | .constraintForEachRow => "CONSTRAINT triggers may only be FOR EACH ROW."
  | .timingOnConstraint => "Timing may only be specified on CONSTRAINT triggers."
  | .definerUnderstood =>
    "A definer must not be specified when the dialect does not support it."
  | .bodyGiven => "A trigger body is required."
  | .procedureGiven => "A trigger procedure is required."

/-- What a place in a tree asks of the part that is put there. -/
inductive Ability where
  /-- It can be rendered. -/
  | rendering
  /-- It is a text that can be quoted. -/
  | quoting
  /-- It is a text that can be stored as bytes. -/
  | encoding
  /-- It says whether a conflict leads to an update. -/
  | updating
  /-- It says what an insertion is modified by. -/
  | modifying
  deriving DecidableEq, Repr

/-- The name of an ability, as messages give it. -/
def Ability.name : Ability → String
  | .rendering => "serialize"
  | .quoting => "replace"
  | .encoding => "encode"
  | .updating => "is_update"
  | .modifying => "query_modifier"

/-- Why rendering failed. -/
inductive Fault where
  | broken (rule : Rule)
  /-- A part of the given type lacks what its place asks of it. -/
  | lacks (typeName : String) (ability : Ability)
  /-- A pair has too few parts. -/
  | tooFewParts (count : Nat)
  /-- A pair has too many parts. -/
  | tooManyParts
  /-- What should be an operator between queries is none. -/
  | noSetOperation (text : String)
  /-- What should be looked up, or a part of it, is of a type that cannot be. -/
  | unhashable (typeName : String)
  /-- What should be measured is of a type that has no length. -/
  | unmeasurable (typeName : String)
  /-- Something that is no text was written at a position in a text. -/
  | notText (position : Nat) (typeName : String)
  /-- Bytes stand where a text is to be quoted. -/
  | bytesForText
  /-- A fault that a session raises by itself. -/
  | raised (text : String)
  deriving DecidableEq, Repr

/-- The text of a fault. -/
def Fault.message : Fault → String
  | .broken rule => rule.message
  | .lacks typeName ability =>
    "'" ++ typeName ++ "' object has no attribute '" ++ ability.name ++ "'"
  | .tooFewParts count =>
    "not enough values to unpack (expected 2, got " ++ toString count ++ ")"
  | .tooManyParts => "too many values to unpack (expected 2)"
  | .noSetOperation text => text
  | .unhashable typeName => "unhashable type: '" ++ typeName ++ "'"
  | .unmeasurable typeName => "object of type '" ++ typeName ++ "' has no len()"
  | .notText position typeName =>
    "sequence item " ++ toString position ++ ": expected str instance, " ++ typeName ++ " found"
  | .bytesForText => "a bytes-like object is required, not 'str'"
  | .raised text => text

/-- What a database does not take as it was asked for. -/
inductive Warning where
  | concatenation
  | noAutoIncrement (dialect : String)
  | inlineEnum (dialect : String)
  | noReturning (dialect : String)
  | noUpsert (dialect : String)
  | noSetOperation (dialect operator : String)
  | noIfNotExists (dialect : String)
  | singleAlteration (dialect : String)
  | noColumnModification (dialect : String)
  | noNamedEnum (dialect statement : String)
  deriving DecidableEq, Repr

/-- The text of a warning. -/
def Warning.message : Warning → String
  | .concatenation =>
    "|| is not rendered because it is not portable; use Function('CONCAT', ...) for MySQL or " ++
      "Raw('||') for PostgreSQL and SQLite."
  | .noAutoIncrement dialect => dialect ++ " does not support auto-increment; skipping"
  | .inlineEnum dialect =>
    "Inline enum types are not intended for " ++ dialect ++
      "; use CreateEnum and a named type instead."
  | .noReturning dialect => dialect ++ " does not support RETURNING; clause dropped"
  | .noUpsert dialect => dialect ++ " does not support upserts; conflict clause dropped"
  | .noSetOperation dialect operator =>
    "The " ++ dialect ++ " dialect does not support " ++ operator ++ "."
  | .noIfNotExists dialect => dialect ++ " does not support IF NOT EXISTS"
  | .singleAlteration dialect =>
    dialect ++ " does not support multiple alterations per ALTER TABLE; " ++
      "issue one statement per alteration instead."
  | .noColumnModification dialect => dialect ++ " does not support column modifications."
  | .noNamedEnum dialect statement =>
    dialect ++ " does not support named enum types; " ++ statement ++ " emitted anyway."

end SqlRender
