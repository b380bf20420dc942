import SqlRender.Render.Fault
import SqlRender.Value.Printer

/-!
# Log records

What is said about a rendering: the warnings of its nodes, how long it took, and the query that came
out of it. A record has a level, and a logger shows the records from a level upwards.
-/

namespace SqlRender.Log

/-- The level of a record. -/
abbrev Level := Int

namespace Level

/-- For the eyes of developers. -/
def debug : Level := 10

/-- What happens in the ordinary course. -/
def info : Level := 20

/-- What may not be meant. -/
def warning : Level := 30

/-- The name of a level. -/
def name (level : Level) : String :=
  match level with
  | 0 => "NOTSET"
  | 10 => "DEBUG"
  | 20 => "INFO"
  | 30 => "WARNING"
  | 40 => "ERROR"
  | 50 => "CRITICAL"
  | n => "Level " ++ toString n

end Level

/-- What a record is about. -/
inductive Event where
  | warning (w : Warning)
  /-- The time that something took, with its text and its values for the log, once they are
  known. -/
  | timing (task : String) (sql : Option String) (params : Value)
  /-- A query with its values for the log, the dialect it is written in and the label of the
  database. -/
  | query (sql : String) (params : List Value) (dialect : String) (database : Option String)

/-- A record. -/
structure Record where
  level : Level
  event : Event

/-- The text of a record. The time that something took is given as a text. -/
def Record.message (duration : String) (r : Record) : String :=
  match r.event with
  | .warning w => w.message
  | .timing task _ _ => task ++ " took " ++ duration
  | .query sql params _ _ => sql ++ " | binds=" ++ (Value.list params).print

/-- The records that a logger of a level shows. -/
def shown (level : Level) (records : List Record) : List Record :=
  records.filter fun r => level ≤ r.level

/-- What is known of something that is timed. -/
structure Timer where
  task : String
  sql : Option String := none
  params : Value := .null

/-- The record at the end. What took at least as long as the threshold is a warning. -/
def Timer.record (threshold elapsed : Float) (t : Timer) : Record :=
  ⟨if elapsed ≥ threshold then .warning else .debug, .timing t.task t.sql t.params⟩

end SqlRender.Log
