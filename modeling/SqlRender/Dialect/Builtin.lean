import SqlRender.Dialect.Basic
import SqlRender.Digest.Sha1
import SqlRender.Text.Utf8

/-!
# The built-in dialects

A baseline, SQLite, PostgreSQL and MySQL; the last is used for MariaDB too.
-/

namespace SqlRender

/-- MySQL takes names of at most 64 characters. Longer ones are replaced by their digest. -/
def digestLongNames : NameLimit where
  maxLength := 64
  replacement name := Sha1.hexDigest (Text.Utf8.encode name)

/-- MySQL's columns of text have a length, without which they could have no index or default. -/
def textWithLength : DataKind → Option String
  | .text => some "VARCHAR(255)"
  | _ => none

/-- PostgreSQL's name for binary data. -/
def binaryAsBytea : DataKind → Option String
  | .blob => some "BYTEA"
  | _ => none

namespace Dialect

/-- The baseline. -/
def generic : Dialect := {}

/-- SQLite. It has no offset without a limit, and a negative limit means none. -/
def sqlite : Dialect where
  name := "sqlite"
  supportsReturning := true
  triggers := { create := .ofList [.body, .condition, .updateColumns] }
  alterTable := { allowsBatch := false }
  upsertStyle := .onConflict
  unionFeatures := .ofList [.union, .unionAll, .intersect, .except]
  offsetWithoutLimit := some "-1"
  jsonAccess := some .extractCall

/-- PostgreSQL, with placeholders numbered as its server does. -/
def postgresql : Dialect where
  name := "postgresql"
  paramStyle := "dollar"
  placeholder := Placeholder.dollar
  autoIncrementClause := "GENERATED BY DEFAULT AS IDENTITY"
  enumStyle := .named
  supportsDropBehavior := true
  supportsReturning := true
  triggers :=
    { create := .ofList [.forEach, .consistency, .condition, .parenthesizedCondition, .constraints,
        .updateColumns]
      drop := .ofList [.behavior, .tableName] }
  alterTable := { modifyVerb := some "ALTER COLUMN", typeKeyword := some "SET DATA TYPE" }
  upsertStyle := .onConflict
  unionFeatures := .ofList [.union, .unionAll, .intersect, .intersectAll, .except, .exceptAll,
    .explicitDistinct, .parenthesizedMembers]
  sharedLock := some "FOR SHARE"
  exclusiveLock := some "FOR UPDATE"
  typeName := some binaryAsBytea
  jsonAccess := some .keyArrows

/-- MySQL. An offset needs a limit there, and the largest one means none. -/
def mysql : Dialect where
  name := "mysql"
  identifierQuote := "`"
  paramStyle := "format"
  placeholder := Placeholder.format
  autoIncrementClause := "AUTO_INCREMENT"
  enumStyle := .inline
  supportsDropBehavior := true
  triggers := { create := .ofList [.body, .order, .definer, .rowRequired] }
  alterTable := { modifyVerb := some "MODIFY COLUMN" }
  upsertStyle := .onDuplicateKey
  unionFeatures := .ofList [.union, .unionAll, .intersect, .intersectAll, .except, .exceptAll,
    .parenthesizedMembers]
  sharedLock := some "LOCK IN SHARE MODE"
  exclusiveLock := some "FOR UPDATE"
  offsetWithoutLimit := some "18446744073709551615"
  typeName := some textWithLength
  constraintName := some digestLongNames
  jsonAccess := some .pathArrow

end Dialect

end SqlRender
