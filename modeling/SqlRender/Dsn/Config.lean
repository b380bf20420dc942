import SqlRender.Dsn.Form
import SqlRender.Dsn.Url
import SqlRender.Redaction

/-!
# Connection strings

A connection string names a dialect and perhaps a driver in its scheme, and says where the database
is. It can be shown without its secrets.
-/

namespace SqlRender.Dsn

/-- What a connection string says. -/
structure Config where
  scheme : String
  username : Option String := none
  password : Option String := none
  host : Option String := none
  port : Option Int := none
  database : Option String := none
  path : String := ""
  options : List (String × String) := []
  deriving DecidableEq, Repr

/-- A text that is there and not empty. -/
def given (s : Option String) : Option String :=
  s.filter (!·.isEmpty)

theorem given_of_ne {s : String} (h : s ≠ "") : given (some s) = some s :=
  Option.filter_some_pos (by simpa using h)

namespace Config

/-- What stands before the first plus sign of the scheme, in lower case. -/
def dialectName (c : Config) : String :=
  Text.lower (String.ofList (Text.cut '+' c.scheme.toList).1)

/-- What stands after the first plus sign of the scheme. -/
def driver (c : Config) : Option String :=
  (Text.cut '+' c.scheme.toList).2.map String.ofList

/-- The value of an option. -/
def option? (c : Config) (name : String) : Option String :=
  c.options.lookup name

/-- The user, with a mask for the password. -/
def redactedUser (c : Config) : String :=
  match given c.username with
  | none => ""
  | some user =>
    user ++ (if (given c.password).isSome then ":" ++ Redaction.mask else "") ++ "@"

/-- The connection string without secrets. -/
def redacted (c : Config) : String :=
  c.scheme ++ "://" ++ c.redactedUser ++ c.host.getD "" ++
    (match c.port with
      | none => ""
      | some port => if port = 0 then "" else ":" ++ toString port) ++
    c.path ++
    if c.options.isEmpty then "" else "?" ++ Form.encode (Redaction.redactOptions c.options)

/-- What a connection string says. -/
def parse (dsn : String) : Except DsnError Config := do
  let url ← Url.ofString dsn
  if url.scheme.isEmpty then throw (.noScheme dsn)
  let authority ← Authority.ofChars url.authority
  return {
    scheme := url.scheme
    username := authority.username
    password := authority.password
    host := authority.host
    port := authority.port.map Int.ofNat
    database := given (some (String.ofList (url.path.dropWhile (· = '/'))))
    path := String.ofList url.path
    options := Form.decode url.query }

/-- What the connection string in a variable of the environment says. -/
def ofVariable (name : String) (value : Option String) : Except DsnError Config :=
  match given value with
  | none => .error (.variableNotSet name)
  | some dsn => parse dsn

end Config

end SqlRender.Dsn
