import SqlRender.Expr.Outline
import SqlRender.Value.Printer

/-!
# Printing expressions

An expression is shown as its class with its fields by name, and a template with its fragments
alone.
-/

namespace SqlRender

namespace Outline

/-- The text of a keyword: its family, its name and its text. -/
def printKeyword (k : Keyword) : String :=
  "<" ++ k.family ++ "." ++ k.name ++ ": " ++ Value.printText k.text ++ ">"

mutual

/-- The text of an outline. -/
def print : Outline → String
  | .value v => v.print
  | .sequence isTuple items =>
    if isTuple then Value.printTuple (printItems items) else Value.printList (printItems items)
  | .keyword k => printKeyword k
  | .record name fields => name ++ "(" ++ ", ".intercalate (printFields fields) ++ ")"
  | .template fragments => "QueryString" ++ Value.printTuple (printItems fragments)
  | .token name => name

/-- The texts of items. -/
def printItems : List Outline → List String
  | [] => []
  | x :: xs => print x :: printItems xs

/-- The texts of fields. -/
def printFields : List (String × Outline) → List String
  | [] => []
  | (name, x) :: fields => (name ++ "=" ++ print x) :: printFields fields

end

/-- The text of an outline that is shown on its own: a text is shown as it is, and a keyword by its
family and its name. -/
def display : Outline → String
  | .value v => v.display
  | .keyword k => k.family ++ "." ++ k.name
  | o => print o

/-- The value that a driver is given: a value as it is, and anything else as the text that shows
it. -/
def bound : Outline → Value
  | .value v => v
  | o => .text (print o)

end Outline

end SqlRender
