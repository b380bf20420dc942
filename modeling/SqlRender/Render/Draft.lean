import SqlRender.Render.Serializer

/-!
# Drafts

What rendering an expression does is laid out in a draft before anything is written. A draft depends
on the grammar of a dialect and not on its placeholders, nor on what was rendered before; only
running it numbers the values.
-/

namespace SqlRender

/-- What is written between the items of a list: a text, or something of another type. Neither binds
a value, so the values of the items are numbered in the order in which they are written. -/
inductive Separator where
  | text (s : String)
  | stray (typeName : String)
  deriving DecidableEq, Repr, Inhabited

instance : Coe String Separator :=
  ⟨.text⟩

/-- Write a separator. -/
def Separator.write : Separator → Rendering Unit
  | .text s => Rendering.write s
  | .stray typeName => Rendering.writeStray typeName

/-- The actions of a rendering. -/
inductive Draft where
  | text (s : String)
  /-- Something of another type where a text is written. -/
  | stray (typeName : String)
  | bind (value : Value)
  | warn (warning : Warning)
  | fail (fault : Fault)
  /-- One after the other. -/
  | seq (parts : List Draft)
  /-- The texts of the items with the separator between them. Items without text are left out. -/
  | join (separator : Separator) (items : List Draft)
  /-- A keyword and the text of a body, or nothing if the body has no text. -/
  | clause (keyword : String) (body : Draft)
  deriving Inhabited

instance : Coe String Draft :=
  ⟨.text⟩

namespace Draft

open Rendering

mutual

/-- Carry out a draft. -/
def run (placeholder : Int → String) : Draft → Rendering Unit
  | .text s => write s
  | .stray typeName => writeStray typeName
  | .bind value => writeBind placeholder value
  | .warn warning => Rendering.warn warning
  | .fail fault => throw fault
  | .seq parts => runAll placeholder parts
  | .join separator items => runJoined placeholder separator.write true items
  | .clause keyword body => do
    let text ← render (run placeholder body)
    if text.isEmpty then pure () else write (keyword ++ " " ++ text)

/-- Carry out drafts one after the other. -/
def runAll (placeholder : Int → String) : List Draft → Rendering Unit
  | [] => pure ()
  | d :: ds => do
    run placeholder d
    runAll placeholder ds

/-- Render items in turn and write those with a text. All but the first to be written follow a
separator. -/
def runJoined (placeholder : Int → String) (separator : Rendering Unit) (first : Bool) :
    List Draft → Rendering Unit
  | [] => pure ()
  | d :: ds => do
    let text ← render (run placeholder d)
    if text.isEmpty then runJoined placeholder separator first ds
    else do
      if first then pure () else separator
      write text
      runJoined placeholder separator false ds

end

/-- Nothing. -/
def empty : Draft :=
  .seq []

/-- Items in parentheses with commas between them. -/
def group (items : List Draft) : Draft :=
  .seq [.text "(", .join ", " items, .text ")"]

/-- Parts with a space between them. -/
def phrase (parts : List Draft) : Draft :=
  .join " " parts

/-- A list under a keyword, left out if it has no items. -/
def listClause (keyword : String) (items : List Draft) : List Draft :=
  if items.isEmpty then [] else [.clause keyword (.join ", " items)]

/-- A word that is there only if the condition holds. -/
def wordIf (condition : Bool) (word : String) : List Draft :=
  if condition then [.text word] else []

end Draft

end SqlRender
