import SqlRender.Dialect.Registry
import SqlRender.Dsn.Config
import SqlRender.Expr.Basic
import SqlRender.Log.Record

/-!
# Databases

A database brings together a dialect and what is logged about its queries. Rendering an expression
gives the text and the values for a driver, and the records for a log, which hold no secrets.
Nothing is executed.
-/

namespace SqlRender

/-- Where queries are rendered for. -/
structure Database where
  dialect : Dialect
  /-- The level that queries are logged at, if they are. -/
  queryLevel : Option Log.Level := some .debug
  /-- The time in milliseconds from which a rendering is slow. -/
  slowMs : Float := 50
  label : Option String := none

/-- What is handed to a driver. -/
structure RenderedQuery where
  sql : String
  binds : List Value

/-- What came of a rendering, and what is logged about it. -/
structure Report where
  outcome : Except Fault RenderedQuery
  records : List Log.Record

/-- Why a database cannot be set up. -/
inductive ConnectError where
  | dsn (e : Dsn.DsnError)
  | lookup (e : LookupError)
  deriving DecidableEq, Repr

/-- The text of the error. -/
def ConnectError.message : ConnectError → String
  | .dsn e => e.message
  | .lookup e => e.message

namespace Database

/-- The variable of the environment that holds a connection string if no other is named. -/
def defaultVariable : String :=
  "SQLCRAFT_DSN"

/-- The placeholders of drivers that do not use those of their dialect. -/
def driverStyles : List (String × String) :=
  [("psycopg", "format"), ("psycopg2", "format"), ("pg8000", "format"), ("asyncpg", "dollar"),
    ("pymysql", "format"), ("mysqldb", "format")]

/-- The placeholders that a connection asks for: those of its option, else those of its driver. -/
def chosenStyle (c : Dsn.Config) : Option String :=
  (Dsn.given (c.option? "paramstyle")).or (driverStyles.lookup (Text.lower (c.driver.getD "")))

/-- The dialect of a connection. -/
def dialectOf (r : Registry) (c : Dsn.Config) : Except LookupError Dialect :=
  match r.get c.dialectName with
  | .error e => .error e
  | .ok d =>
    match chosenStyle c with
    | some style => d.ensureParamStyle style
    | none => .ok d

/-- Of the options, only the one for the placeholders has a part in the choice of the dialect. -/
theorem dialectOf_congr (r : Registry) {c c' : Dsn.Config} (hscheme : c.scheme = c'.scheme)
    (hstyle : c.option? "paramstyle" = c'.option? "paramstyle") :
    dialectOf r c = dialectOf r c' := by
  have hchosen : chosenStyle c = chosenStyle c' := by
    rw [chosenStyle, chosenStyle, Dsn.Config.driver, Dsn.Config.driver, hscheme, hstyle]
  rw [dialectOf, dialectOf, hchosen, Dsn.Config.dialectName, Dsn.Config.dialectName, hscheme]

/-- The database of a connection, labelled with the connection string without secrets. -/
def ofConfig (r : Registry) (c : Dsn.Config) : Except ConnectError Database :=
  match dialectOf r c with
  | .error e => .error (.lookup e)
  | .ok d => .ok { dialect := d, label := some c.redacted }

/-- The database of a connection string. -/
def ofDsn (r : Registry) (dsn : String) : Except ConnectError Database :=
  match Dsn.Config.parse dsn with
  | .error e => .error (.dsn e)
  | .ok c => ofConfig r c

/-- The database of the connection string in a variable of the environment. -/
def ofVariable (r : Registry) (name : String) (value : Option String) :
    Except ConnectError Database :=
  match Dsn.Config.ofVariable name value with
  | .error e => .error (.dsn e)
  | .ok c => ofConfig r c

/-- The text of a database. -/
def describe (db : Database) : String :=
  "<Database " ++ db.dialect.name ++ ((Dsn.given db.label).map (" " ++ ·)).getD "" ++ ">"

/-- Render an expression, given the time that it took. The records are the warnings in order, the
time, and the query if there is one and it is logged. -/
def render (db : Database) (elapsedMs : Float) (e : Expr) : Report :=
  let timer : Log.Timer := { task := db.dialect.name ++ " render" }
  let warnings (s : Serializer) : List Log.Record :=
    s.warnings.map fun w => ⟨.warning, .warning w⟩
  let failed (fault : Fault) (s : Serializer) : Report :=
    ⟨.error fault, warnings s ++ [timer.record db.slowMs elapsedMs]⟩
  match e.render db.dialect {} with
  | .error fault s => failed fault s
  | .ok _ s =>
    match s.written.text with
    | .error fault => failed fault s
    | .ok sql =>
      let params := Redaction.redactBinds s.binds
      let timing := { timer with sql := some sql, params := .list params }
      let query : List Log.Record :=
        match db.queryLevel with
        | some level => [⟨level, .query sql params db.dialect.name db.label⟩]
        | none => []
      ⟨.ok ⟨sql, s.binds⟩, warnings s ++ [timing.record db.slowMs elapsedMs] ++ query⟩

end Database

end SqlRender
