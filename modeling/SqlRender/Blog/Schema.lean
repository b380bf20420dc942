import SqlRender.Expr.Build

/-!
# The schema of a blog

An example of definitions: authors, their posts, and an index.
-/

namespace SqlRender.Blog

open SqlRender.Expr

/-- The table of authors. -/
def authors : String :=
  "authors"

/-- The table of posts. -/
def posts : String :=
  "posts"

/-- A table that is created unless it is there. -/
def tableUnlessThere (table : String) (columns : List Expr) : Expr :=
  createTable { table := table, columns := columns, ifNotExists := true, asQuery := absent }

/-- The table of authors with its columns. -/
def authorsTable : Expr :=
  tableUnlessThere authors
    [columnDefinition "id" (plainType .int) [primaryKey],
      columnDefinition "name" (plainType .text) [constraintOf .notNull],
      columnDefinition "email" (plainType .text) [constraintOf .unique]]

/-- The table of posts with its columns. -/
def postsTable : Expr :=
  tableUnlessThere posts
    [columnDefinition "id" (plainType .int) [primaryKey],
      columnDefinition "author_id" (plainType .int)
        [constraintOf .notNull,
          constraintOf .foreignKey
            (foreignKey authors ["id"] (.node (.keyword (.foreignKeyAction .cascade))))],
      columnDefinition "title" (plainType .text) [constraintOf .notNull],
      columnDefinition "body" (plainType .text),
      columnDefinition "published" (customType "BOOLEAN") [defaultValue (.value (.bool false))]]

/-- The statements that create the schema. -/
def schema : List Expr :=
  [authorsTable, postsTable,
    createIndex
      { name := "idx_posts_author", table := posts, columns := ["author_id"], modifier := absent
        predicate := absent }]

end SqlRender.Blog
