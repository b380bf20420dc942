import SqlRender.Render.Fault
import SqlRender.Value

/-!
# The serializer

A serializer holds what has been rendered so far: the chunks of text, the bound values in the order
of their placeholders, and the warnings. A fault leaves what was written before it in place.

A tree may write something that is no text. That is noticed only where the chunks are put together,
so that what comes in between is rendered, and may fail, all the same.
-/

namespace SqlRender

/-- Something that is no text among chunks of text: how many chunks are before it, and its type. -/
structure Stray where
  position : Nat
  typeName : String
  deriving DecidableEq, Repr

/-- What has been written: chunks of text, and the first thing among them that is no text. -/
structure Written where
  chunks : List String := []
  stray : Option Stray := none
  deriving DecidableEq, Repr, Inhabited

/-- The chunks put together, if all of what was written is text. -/
def Written.text (w : Written) : Except Fault String :=
  match w.stray with
  | none => .ok (String.join w.chunks)
  | some s => .error (.notText s.position s.typeName)

/-- The state of a rendering. -/
structure Serializer where
  written : Written := {}
  binds : List Value := []
  warnings : List Warning := []
  deriving Inhabited

/-- The text written so far. -/
def Serializer.sql (s : Serializer) : String :=
  String.join s.written.chunks

/-- A computation on a serializer that may end in a fault. -/
abbrev Rendering := EStateM Fault Serializer

namespace Rendering

/-- Append a chunk of text; nothing is no chunk. -/
def write (text : String) : Rendering Unit := fun s =>
  .ok ()
    (if text.isEmpty then s
      else { s with written := { s.written with chunks := s.written.chunks ++ [text] } })

/-- Append something that is no text. The first such thing counts. -/
def writeStray (typeName : String) : Rendering Unit := fun s =>
  .ok ()
    { s with
      written :=
        { s.written with stray := s.written.stray.or (some ⟨s.written.chunks.length, typeName⟩) } }

/-- Append a value and write the placeholder of its position. -/
def writeBind (placeholder : Int → String) (value : Value) : Rendering Unit := fun s =>
  write (placeholder (s.binds.length + 1)) { s with binds := s.binds ++ [value] }

/-- Note a warning. -/
def warn (warning : Warning) : Rendering Unit := fun s =>
  .ok () { s with warnings := s.warnings ++ [warning] }

/-- Run with nothing written, and give what is written meanwhile. What was written before comes back
whether or not the run ends in a fault; values and warnings stay. -/
def capture (body : Rendering Unit) : Rendering Written := fun s =>
  match body { s with written := {} } with
  | .ok _ t => .ok t.written { t with written := s.written }
  | .error fault t => .error fault { t with written := s.written }

/-- Run with nothing written, and give the text written meanwhile. -/
def render (body : Rendering Unit) : Rendering String := do
  match (← capture body).text with
  | .ok text => return text
  | .error fault => throw fault

end Rendering

end SqlRender
