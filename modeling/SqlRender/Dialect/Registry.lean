import SqlRender.Dialect.Builtin
import SqlRender.Text.LowerCase

/-!
# The registry of dialects

Dialects are found by name in any letter case. A driver may follow the name after a plus sign, so
that the scheme of a connection string can be used as it is.
-/

namespace SqlRender

/-- Why a dialect is not at hand. -/
inductive LookupError where
  | unknownDialect (name : String) (available : List String)
  | unknownParamStyle (name : String)
  deriving DecidableEq, Repr

/-- Texts in the order of their code points. -/
def sortedTexts (texts : List String) : List String :=
  texts.mergeSort fun s t => !decide (t < s)

/-- The text of the error. -/
def LookupError.message : LookupError → String
  | .unknownDialect name available =>
    "Unknown dialect '" ++ name ++ "'. Available: " ++ ", ".intercalate available
  | .unknownParamStyle name =>
    "Unknown param style '" ++ name ++ "'. Available: " ++
      ", ".intercalate (sortedTexts (Placeholder.styles.map (·.1)))

/-- The dialect with the placeholders of a style. -/
def Dialect.withParamStyle (d : Dialect) (style : String) : Except LookupError Dialect :=
  match Placeholder.style? style with
  | some placeholder => .ok { d with paramStyle := style, placeholder := placeholder }
  | none => .error (.unknownParamStyle style)

/-- The dialect with a style, left as it is if that is its style by name. -/
def Dialect.ensureParamStyle (d : Dialect) (style : String) : Except LookupError Dialect :=
  if style = d.paramStyle then .ok d else d.withParamStyle style

/-- Dialects under their keys, which are in lower case and differ from each other. -/
structure Registry where
  entries : List (String × Dialect)

namespace Registry

/-- No dialects. -/
def empty : Registry :=
  ⟨[]⟩

/-- What a name is compared by when a dialect is registered. -/
def registrationKey (name : String) : String :=
  Text.lower name

/-- What a name is compared by when a dialect is looked up: a driver after a plus sign is left
out. -/
def lookupKey (name : String) : String :=
  String.ofList ((Text.lower name).toList.takeWhile (· ≠ '+'))

/-- The registry with a dialect under a key, in place of the one that was there. -/
def insert (r : Registry) (key : String) (d : Dialect) : Registry :=
  ⟨r.entries.filter (fun e => e.1 ≠ key) ++ [(key, d)]⟩

/-- The registry with a dialect under its own name and under other ones. -/
def register (r : Registry) (d : Dialect) (aliases : List String) : Registry :=
  (d.name :: aliases).foldl (fun r name => r.insert (registrationKey name) d) r

/-- The keys in order. -/
def available (r : Registry) : List String :=
  sortedTexts (r.entries.map (·.1))

/-- The dialect under a name. -/
def get (r : Registry) (name : String) : Except LookupError Dialect :=
  match r.entries.lookup (lookupKey name) with
  | some d => .ok d
  | none => .error (.unknownDialect name r.available)

/-- The built-in dialects with their usual other names. -/
def builtin : Registry :=
  empty
    |>.register .generic []
    |>.register .sqlite ["sqlite3"]
    |>.register .postgresql ["postgres", "psql"]
    |>.register .mysql ["mariadb"]

end Registry

end SqlRender
