import SqlRender.Text.Hex
import SqlRender.Text.Search
import SqlRender.Text.Utf8

/-!
# Form encoding

The options at the end of a connection string are written as fields of a form: names and values with
an equals sign between them and ampersands between fields. Spaces are written as plus signs, and
bytes that are not letters, digits or one of four marks as a percent sign and two digits.
-/

namespace SqlRender.Dsn.Form

/-- Whether a character is written as it is. -/
def isPlain (c : Char) : Bool :=
  c.isAlphanum || c == '_' || c == '.' || c == '-' || c == '~'

/-- The text for a byte. -/
def encodeByte (b : UInt8) : String :=
  let c := Char.ofNat b.toNat
  if isPlain c then c.toString
  else if c = ' ' then "+"
  else "%" ++ (Text.hex 2 b.toNat).toUpper

/-- The text for a name or a value. -/
def encodeText (s : String) : String :=
  String.join ((Text.Utf8.encode s).map encodeByte)

/-- The text of fields. -/
def encode (fields : List (String × String)) : String :=
  "&".intercalate (fields.map fun f => encodeText f.1 ++ "=" ++ encodeText f.2)

/-- The number that a hexadecimal digit stands for. -/
def digit? (c : Char) : Option Nat :=
  if c.isDigit then some (c.toNat - 48)
  else if 'a' ≤ c && c ≤ 'f' then some (c.toNat - 87)
  else if 'A' ≤ c && c ≤ 'F' then some (c.toNat - 55)
  else none

/-- The bytes of a run of ASCII characters. A percent sign without two digits stands for itself. -/
def percentBytes : List Char → List UInt8
  | [] => []
  | '%' :: a :: b :: rest =>
    match digit? a, digit? b with
    | some high, some low => UInt8.ofNat (16 * high + low) :: percentBytes rest
    | _, _ => UInt8.ofNat '%'.toNat :: percentBytes (a :: b :: rest)
  | c :: rest => UInt8.ofNat c.toNat :: percentBytes rest

/-- Read the bytes of each run of ASCII characters as text; `run` holds the current one in reverse.
Other characters stand for themselves. -/
def decodeRuns (run : List Char) : List Char → String
  | [] => Text.Utf8.decodeReplacing (percentBytes run.reverse)
  | c :: rest =>
    if c.toNat < 0x80 then decodeRuns (c :: run) rest
    else Text.Utf8.decodeReplacing (percentBytes run.reverse) ++ c.toString ++ decodeRuns [] rest

/-- The name or value that a text stands for. -/
def decodeText (cs : List Char) : String :=
  decodeRuns [] (cs.map fun c => if c = '+' then ' ' else c)

/-- A field, unless its value is blank. -/
def field? (cs : List Char) : Option (String × String) :=
  match Text.cut '=' cs with
  | (name, some (c :: value)) => some (decodeText name, decodeText (c :: value))
  | _ => none

/-- The fields with different names, each with its first value. -/
def keepFirst (fields : List (String × String)) : List (String × String) :=
  fields.foldl (fun kept f => if kept.any (·.1 == f.1) then kept else kept ++ [f]) []

/-- The fields of a text. -/
def decode (cs : List Char) : List (String × String) :=
  keepFirst ((Text.splitOn '&' cs).filterMap field?)

end SqlRender.Dsn.Form
