import SqlRender.Expr.Basic

/-!
# Sessions

A session drives a serializer step by step: it writes text and values, renders expressions, captures
text, and collects the parts of statements, whose rendering waits for the end of the statement. What
can be seen after each step is noted in a row, also of a step that fails. A step after which what is
written is no text fails too.
-/

namespace SqlRender

/-- A step of a session. -/
inductive Step where
  | write (text : String)
  | bind (value : Value)
  /-- Render an expression to a text that is not written. -/
  | render (e : Expr)
  /-- Render an expression into the serializer. -/
  | serialize (e : Expr)
  /-- Run steps with their text put aside. -/
  | capture (steps : List Step)
  /-- Run steps and then write the parts that they appended. -/
  | statement (steps : List Step)
  /-- Append parts to the innermost statement. -/
  | append (parts : List Expr)
  /-- Append a clause to the innermost statement, unless its body is absent. -/
  | appendClause (keyword : String) (body : Expr)
  | raise (message : String)

/-- What a step gives besides its effects. -/
inductive StepResult where
  | nothing
  | text (s : String)
  | chunks (texts : List String)
  deriving DecidableEq, Repr

/-- What can be seen after a step. -/
structure Row where
  sql : String
  binds : List Value
  /-- The number of parts of the innermost statement, if there is one and the step did not fail. -/
  parts : Option Nat
  result : StepResult
  fault : Option Fault
  /-- The rows of the steps inside. -/
  steps : Option (List Row)

/-- The state of a session. -/
structure SessionState where
  serializer : Serializer := {}
  /-- The parts of the innermost statement, if there is one. -/
  pending : Option (List Draft) := none
  rows : List Row := []

/-- A fault, and the rows of the steps inside the one that failed. -/
structure StepFault where
  fault : Fault
  steps : Option (List Row) := none

/-- A computation in a session. -/
abbrev Session := EStateM StepFault SessionState

namespace Session

/-- Act on the serializer. -/
def act {α : Type} (action : Rendering α) : Session α := fun s =>
  match action s.serializer with
  | .ok a t => .ok a { s with serializer := t }
  | .error fault t => .error ⟨fault, none⟩ { s with serializer := t }

/-- Append parts to the innermost statement. -/
def addParts (parts : List Draft) : Session Unit := fun s =>
  .ok () { s with pending := s.pending.map (· ++ parts) }

/-- Note what can be seen after a step that failed. -/
def observeFault (e : StepFault) : Session Unit := fun s =>
  .error e { s with rows := s.rows ++ [⟨s.serializer.sql, s.serializer.binds, none, .nothing,
    some e.fault, e.steps⟩] }

/-- Note what can be seen after a step. -/
def observe (step : Session (StepResult × Option (List Row))) : Session Unit := fun s =>
  match step s with
  | .error e t => observeFault e t
  | .ok (result, steps) t =>
    match t.serializer.written.text with
    | .error fault => observeFault ⟨fault, steps⟩ t
    | .ok sql =>
      .ok () { t with rows := t.rows ++ [⟨sql, t.serializer.binds, t.pending.map List.length,
        result, none, steps⟩] }

/-- Run steps inside another one, whose rows they become. -/
def inside (steps : Session Unit) : Session (List Row) := fun s =>
  match steps { s with rows := [] } with
  | .ok _ t => .ok t.rows { t with rows := s.rows }
  | .error e t => .error ⟨e.fault, some t.rows⟩ { t with rows := s.rows }

/-- Run with nothing written, and give the chunks written meanwhile. -/
def captured {α : Type} (steps : Session α) : Session (α × List String) := fun s =>
  match steps { s with serializer := { s.serializer with written := {} } } with
  | .ok a t =>
    .ok (a, t.serializer.written.chunks)
      { t with serializer := { t.serializer with written := s.serializer.written } }
  | .error e t =>
    .error e { t with serializer := { t.serializer with written := s.serializer.written } }

/-- Run in a new statement, and give the parts appended meanwhile. -/
def collected {α : Type} (steps : Session α) : Session (α × List Draft) := fun s =>
  match steps { s with pending := some [] } with
  | .ok a t => .ok (a, t.pending.getD []) { t with pending := s.pending }
  | .error e t => .error e { t with pending := s.pending }

end Session

open Session in
mutual

/-- What a step does. -/
def Step.perform (d : Dialect) : Step → Session (StepResult × Option (List Row))
  | .write text => do
    act (Rendering.write text)
    return (.nothing, none)
  | .bind value => do
    act (Rendering.writeBind d.placeholder value)
    return (.nothing, none)
  | .render e => do
    let text ← act (Rendering.render (e.render d))
    return (.text text, none)
  | .serialize e => do
    act (e.render d)
    return (.nothing, none)
  | .capture steps => do
    let (rows, chunks) ← captured (inside (Step.runAll d steps))
    return (.chunks chunks, some rows)
  | .statement steps => do
    let (rows, parts) ← collected (inside (Step.runAll d steps))
    fun s =>
      match act ((Draft.phrase parts).run d.placeholder) s with
      | .ok _ t => .ok (.nothing, some rows) t
      | .error e t => .error ⟨e.fault, some rows⟩ t
  | .append parts => do
    addParts (Piece.parts (parts.map (Expr.piece d.toGrammar)))
    return (.nothing, none)
  | .appendClause keyword body => do
    addParts ((body.piece d.toGrammar).clause keyword)
    return (.nothing, none)
  | .raise message => throw ⟨.raised message, none⟩

/-- Run steps up to the first that fails. -/
def Step.runAll (d : Dialect) : List Step → Session Unit
  | [] => pure ()
  | step :: steps => do
    observe (Step.perform d step)
    Step.runAll d steps

end

/-- Run a session. A step that fails does not keep the next ones from running, but nothing can be
seen of a session in which what is written is no text. -/
def Step.session (d : Dialect) (steps : List Step) : Except Fault SessionState :=
  steps.foldlM
    (fun s step =>
      let t :=
        match Session.observe (step.perform d) s with
        | .ok _ t => t
        | .error _ t => t
      t.serializer.written.text.map fun _ => t)
    {}

end SqlRender
