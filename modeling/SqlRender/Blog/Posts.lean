import SqlRender.Blog.Schema
import SqlRender.Database

/-!
# The posts of a blog

An example of the whole way from a connection string to rows: a database is set up, filled with
samples and queried over a connection that notes what it is asked to do.
-/

namespace SqlRender.Blog

open SqlRender.Expr

/-- What a connection is asked to do. -/
inductive Call where
  | connect (path : String)
  | execute (sql : String) (binds : List Value)
  | close

/-- A connection that notes its calls. The rows that it finds by a unique key have rising
identifiers, and other queries find the rows that are given. -/
structure Connection where
  calls : List Call := []
  nextId : Int := 1
  rows : List Value := []

/-- What keeps a task from its end. -/
inductive TaskError where
  | connect (e : ConnectError)
  | render (f : Fault)
  deriving DecidableEq, Repr

/-- A task over a connection. What was called before an error has been called. -/
abbrev Task := EStateM TaskError Connection

namespace Task

/-- Note a call. -/
def call (c : Call) : Task Unit :=
  modify fun s => { s with calls := s.calls ++ [c] }

/-- Render an expression and execute it. -/
def execute (db : Database) (e : Expr) : Task Unit :=
  match (db.render 0 e).outcome with
  | .ok query => call (.execute query.sql query.binds)
  | .error fault => throw (.render fault)

/-- The identifier of the row that was found. -/
def fetchId : Task Int :=
  modifyGet fun s => (s.nextId, { s with nextId := s.nextId + 1 })

end Task

/-- A query for some columns of some tables under a condition. -/
def query (columns tables : List Expr) (predicate : Expr) : Select Expr :=
  { columns := columns, tables := tables, predicate := predicate, having := absent
    locking := absent }

/-- The equality of a column and something else. -/
def equals (left right : Expr) : Expr :=
  operation left (.node (.keyword (.operator .equal))) right

/-- The latest published posts with the names of their authors. -/
def recentPosts (limit : Value) : Expr :=
  select
    { query
        [column "id" posts, column "title" posts, column "published" posts,
          labelled (column "name" authors) "author_name"]
        [posts] (equals (column "published" posts) (.value (.bool true))) with
      joins :=
        [join (.node (.keyword (.joinMethod .inner))) authors
          (equals (column "author_id" posts) (column "id" authors))]
      orderBy := [orderBy (column "id" posts) (.node (.keyword (.direction .descending)))]
      limit := .value limit }

/-- How many posts are shown if nothing else is said. -/
def defaultLimit : Value :=
  .int 5

/-- Insert an author who is not there yet, and give the author's identifier. -/
def addAuthor (db : Database) (name email : String) : Task Int := do
  Task.execute db (insert
    { table := authors, columns := ["name", "email"], rows := [[name, email]], query := absent
      strategy := conflictStrategy ["email"], returning := absent })
  Task.execute db (select (query ["id"] [authors] (equals "email" email)))
  Task.fetchId

/-- Insert sample authors and posts, and give their numbers. -/
def seed (db : Database) : Task Value := do
  let alice ← addAuthor db "Alice Carter" "alice@example.com"
  let brian ← addAuthor db "Brian Kim" "brian@example.com"
  let post (author : Int) (title : String) (body : Expr) (published : Bool) : List Expr :=
    [.value (.int author), title, body, .value (.bool published)]
  Task.execute db (insert
    { table := posts
      columns := ["author_id", "title", "body", "published"]
      rows :=
        [post alice "Introducing sqlcraft" "One tree, three dialects." true,
          post brian "Binding values safely" "Placeholders, never quotes." true,
          post brian "Unfinished draft" absent false]
      query := absent, strategy := absent, returning := absent })
  return .map [(.text "authors", .int 2), (.text "posts", .int 3)]

/-- The rows of the latest posts. -/
def fetchRecentPosts (db : Database) (limit : Value) : Task Value := do
  Task.execute db (recentPosts limit)
  let s ← get
  return .list (s.rows.map fun id => .map [(.text "id", id)])

/-- The connection string that is used if no other is given. -/
def defaultDsn : String :=
  "sqlite:///:memory:"

/-- Connect and create the schema. The path of the connection string names the file; without one the
rows are held in memory. -/
def bootstrap (r : Registry) (dsn : String) : Task Database := do
  let config ←
    match Dsn.Config.parse dsn with
    | .ok c => pure c
    | .error e => throw (.connect (.dsn e))
  let db ←
    match Database.ofConfig r config with
    | .ok db => pure db
    | .error e => throw (.connect e)
  let path := String.ofList (config.path.toList.drop 1)
  Task.call (.connect (if path.isEmpty then ":memory:" else path))
  Task.call (.execute "PRAGMA foreign_keys = ON" [])
  for statement in schema do
    Task.execute db statement
  return db

/-- Set up a blog, fill it and show its latest posts. The connection is closed in the end, whatever
happened. -/
def demo (r : Registry) : Task Value := do
  let db ← bootstrap r defaultDsn
  let shown : Task Value := do
    let _ ← seed db
    fetchRecentPosts db defaultLimit
  fun s =>
    match shown s with
    | .ok rows t => (do Task.call .close; return rows : Task Value) t
    | .error e t => (do Task.call .close; throw e : Task Value) t

end SqlRender.Blog
