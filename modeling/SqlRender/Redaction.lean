import SqlRender.Text.Alphanumeric
import SqlRender.Text.LowerCase
import SqlRender.Text.Search
import SqlRender.Text.Utf8
import SqlRender.Value.Printer

/-!
# Redaction

What goes into a log holds no secrets and is not too long. A value is secret if it stands under a
telling name or has a telling word in it.
-/

namespace SqlRender.Redaction

/-- What is shown in place of a secret. -/
def mask : String :=
  "***"

/-- The most characters of a text, and the most bytes, that are logged. -/
def maxLength : Nat :=
  200

/-- The words that make a name telling. -/
def sensitiveNames : List String :=
  ["password", "passwd", "pwd", "secret", "token", "apikey", "accesskey", "secretkey", "privatekey",
    "sslkey", "sslcert", "sslrootcert", "sslca"]

/-- The words that make a text telling. -/
def sensitiveMarkers : List String :=
  ["password", "passwd", "secret", "token", "apikey", "api_key", "private_key", "bearer",
    "authorization"]

/-- A name in lower case without anything but letters and digits. -/
def compact (name : String) : String :=
  String.ofList ((Text.lower name).toList.filter Text.isAlphanumeric)

/-- Whether a name is telling, in whatever case and with whatever marks between its parts. -/
def isSensitiveKey (name : String) : Bool :=
  sensitiveNames.any (Text.contains (compact name))

/-- Whether a text has a telling word in it, in whatever case. -/
def isSensitiveText (text : String) : Bool :=
  sensitiveMarkers.any (Text.contains (Text.lower text))

/-- A text for the log: masked if it is telling, else cut if it is too long. -/
def redactText (s : String) : String :=
  if isSensitiveText s then mask
  else if s.length > maxLength then String.ofList (s.toList.take maxLength) ++ "..."
  else s

/-- Bytes for the log: only their number if there are too many, masked if they read as a telling
text, else as they are. -/
def redactBytes (data : List UInt8) (shown : Value) : Value :=
  if data.length > maxLength then .text ("<" ++ toString data.length ++ " bytes>")
  else if isSensitiveText (Text.Utf8.decodeSkipping data) then .text mask
  else shown

mutual

/-- A value for the log. -/
def redact : Value → Value
  | .map entries => .map (redactEntries entries)
  | .tuple items => .tuple (redactItems items)
  | .list items => .list (redactItems items)
  | .bytes data => redactBytes data (.bytes data)
  | .buffer data => redactBytes data (.buffer data)
  | .text s => .text (redactText s)
  | v => v

/-- Items for the log. -/
def redactItems : List Value → List Value
  | [] => []
  | v :: vs => redact v :: redactItems vs

/-- Entries for the log. Keys are shown; a value under a telling key is masked. -/
def redactEntries : List (Value × Value) → List (Value × Value)
  | [] => []
  | (k, v) :: es =>
    (k, if isSensitiveKey k.display then .text mask else redact v) :: redactEntries es

end

/-- A value under a name for the log. -/
def redactUnder (name : Option String) (v : Value) : Value :=
  if name.any isSensitiveKey then .text mask else redact v

/-- Bound values for the log. -/
def redactBinds (binds : List Value) : List Value :=
  binds.map redact

/-- Options with something else in place of what stands under telling names. -/
def maskTelling {α : Type} (shown : α) (options : List (String × α)) : List (String × α) :=
  options.map fun o => (o.1, if isSensitiveKey o.1 then shown else o.2)

/-- The options of a connection string for the log. -/
def redactOptions (options : List (String × String)) : List (String × String) :=
  maskTelling mask options

end SqlRender.Redaction
