import SqlRender.Log.Record

/-!
# Setting up the log

The loggers of the library have a common ancestor, which is set up once: by the program, or by the
first logger that is asked for. Lines are marked with an identifier that a program may choose, so
that what belongs together can be found.
-/

namespace SqlRender.Log

/-- The name of the common ancestor. -/
def rootName : String :=
  "sqlcraft"

/-- The state of the log. Before it is set up there is no level. -/
structure Setup where
  handlers : Nat := 0
  level : Level := 0
  correlationId : Option String := none
  deriving DecidableEq, Repr

namespace Setup

/-- Set up the log, unless that has been done. -/
def configure (level : Level) (s : Setup) : Setup :=
  if s.handlers = 0 then { s with handlers := 1, level := level } else s

/-- Choose the identifier of lines; for none or an empty one a fresh one is taken. -/
def setId (fresh : String) (chosen : Option String) (s : Setup) : String × Setup :=
  let id := (chosen.filter (!·.isEmpty)).getD fresh
  (id, { s with correlationId := some id })

/-- The identifier of lines; a fresh one is taken if there is none. -/
def id (fresh : String) (s : Setup) : String × Setup :=
  match s.correlationId with
  | some id => (id, s)
  | none => s.setId fresh none

/-- The full name of a logger. -/
def loggerName (name : String) : String :=
  rootName ++ "." ++ name

/-- The level from which records are shown. Where none is chosen it is that of warnings. -/
def effectiveLevel (s : Setup) : Level :=
  if s.level = 0 then .warning else s.level

/-- Whether a record of a level is shown. Levels up to zero never are. -/
def shows (level : Level) (s : Setup) : Bool :=
  0 < level && s.effectiveLevel ≤ level

/-- The lines that a message gives, without the time, and the state afterwards. -/
def log (fresh logger : String) (level : Level) (message : String) (s : Setup) :
    List String × Setup :=
  let s := s.configure .info
  if s.shows level then
    let (id, s) := s.id fresh
    ([" | ".intercalate [level.name, id, loggerName logger, message]], s)
  else ([], s)

end Setup

end SqlRender.Log
