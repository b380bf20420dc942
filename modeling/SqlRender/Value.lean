/-!
# Values

The data that a caller binds to a query: the scalars of the database drivers, and lists, tuples and
maps of them, which drivers take for arrays, rows and documents.
-/

namespace SqlRender

/-- A value. The entries of a map keep the order in which their keys were first given. -/
inductive Value where
  | null
  | bool (b : Bool)
  | int (i : Int)
  | float (x : Float)
  | text (s : String)
  | bytes (data : List UInt8)
  | buffer (data : List UInt8)
  | list (items : List Value)
  | tuple (items : List Value)
  | map (entries : List (Value × Value))
  deriving Inhabited

namespace Value

/-- The name of a value's type, as messages give it. -/
def typeName : Value → String
  | .null => "NoneType"
  | .bool _ => "bool"
  | .int _ => "int"
  | .float _ => "float"
  | .text _ => "str"
  | .bytes _ => "bytes"
  | .buffer _ => "bytearray"
  | .list _ => "list"
  | .tuple _ => "tuple"
  | .map _ => "dict"

/-- Whether a value counts as true where a yes or no is expected: anything but zeros and what is
empty. -/
def truthy : Value → Bool
  | .null => false
  | .bool b => b
  | .int i => i ≠ 0
  | .float x => x != 0
  | .text s => !s.isEmpty
  | .bytes data => !data.isEmpty
  | .buffer data => !data.isEmpty
  | .list items => !items.isEmpty
  | .tuple items => !items.isEmpty
  | .map entries => !entries.isEmpty

/-- The members of a value where a sequence is expected: a text has its characters, bytes their
numbers and a map its keys. Other scalars have none. -/
def members? : Value → Option (List Value)
  | .text s => some (s.toList.map fun c => .text c.toString)
  | .bytes data => some (data.map fun b => .int b.toNat)
  | .buffer data => some (data.map fun b => .int b.toNat)
  | .list items => some items
  | .tuple items => some items
  | .map entries => some (entries.map (·.1))
  | _ => none

end Value

end SqlRender
