import SqlRender.Decimal.Layout
import SqlRender.Text.Hex
import SqlRender.Text.Printable
import SqlRender.Value

/-!
# Printing values

The text of a value in log lines and messages. Texts and bytes are quoted and escaped so that the
text of a value is one line of printable characters.
-/

namespace SqlRender.Value

/-- Numbers are positional from one ten-thousandth up to below ten to the sixteenth. -/
def numberLayout : NumberLayout :=
  ⟨-4, 15, 2, "inf", "nan"⟩

/-- The mark around a quoted text: the apostrophe, unless the text has one and no quotation mark. -/
def quoteMark (cs : List Char) : Char :=
  if cs.contains '\'' && !cs.contains '"' then '"' else '\''

/-- A character inside a quoted text, by its escape where it has one. `guarded` says which
characters follow a backslash, which itself always does, and `plain` which others are shown as
themselves. -/
def escapeChar (guarded plain : Char → Bool) (c : Char) : String :=
  if guarded c || c = '\\' then "\\" ++ c.toString
  else if c = '\n' then "\\n"
  else if c = '\r' then "\\r"
  else if c = '\t' then "\\t"
  else if plain c then c.toString
  else if c.toNat < 0x100 then "\\x" ++ Text.hex 2 c.toNat
  else if c.toNat < 0x10000 then "\\u" ++ Text.hex 4 c.toNat
  else "\\U" ++ Text.hex 8 c.toNat

/-- A quoted text with its escapes. The mark around it is guarded inside it, and so may be the
apostrophe where it is not the mark. -/
def escape (apostrophes : Bool) (plain : Char → Bool) (cs : List Char) : String :=
  let mark := quoteMark cs
  let guarded := fun c => c = mark || (apostrophes && c = '\'')
  mark.toString ++ String.join (cs.map (escapeChar guarded plain)) ++ mark.toString

/-- The text of a text. -/
def printText (s : String) : String :=
  escape false Text.isPrintable s.toList

/-- The text of bytes, in which only the printable characters of ASCII are shown as themselves. -/
def printBytes (apostrophes : Bool) (data : List UInt8) : String :=
  "b" ++ escape apostrophes (fun c => 0x20 ≤ c.toNat && c.toNat < 0x7f)
    (data.map fun b => Char.ofNat b.toNat)

/-- The text of a tuple with the given items. A single item is followed by a comma. -/
def printTuple : List String → String
  | [item] => "(" ++ item ++ ",)"
  | items => "(" ++ ", ".intercalate items ++ ")"

/-- The text of a list with the given items. -/
def printList (items : List String) : String :=
  "[" ++ ", ".intercalate items ++ "]"

mutual

/-- The text of a value. -/
def print : Value → String
  | .null => "None"
  | .bool b => if b then "True" else "False"
  | .int i => toString i
  | .float x => numberLayout.float x
  | .text s => printText s
  | .bytes data => printBytes false data
  | .buffer data => "bytearray(" ++ printBytes true data ++ ")"
  | .list items => printList (printItems items)
  | .tuple items => printTuple (printItems items)
  | .map entries => "\x7b" ++ ", ".intercalate (printEntries entries) ++ "\x7d"

/-- The texts of items. -/
def printItems : List Value → List String
  | [] => []
  | x :: xs => print x :: printItems xs

/-- The texts of entries. -/
def printEntries : List (Value × Value) → List String
  | [] => []
  | (k, v) :: es => (print k ++ ": " ++ print v) :: printEntries es

end

/-- The text of a value that is shown on its own: a text is shown as it is. -/
def display : Value → String
  | .text s => s
  | v => print v

end SqlRender.Value
