import Mathlib
import SqlRender.Dialect.Builtin
import SqlRender.Expr.Build
import SqlRender.Render.Session
import SqlRender.Proofs.Render.Frame

/-!
# Writing back what was put aside

A session that ends well may as well be run with its text put aside, if the text is written
afterwards (`Step.capture_write_back`). Steps see the text before them only in their rows, where it
stands in front of their own; what they do is the same with and without it. Behind a text `w` a
session therefore goes the way it goes on its own (`Session.Retraces`), step by step and, where
steps run inside a step, with the rows inside moved behind `w` as well. Only the rows inside a
capture stay as they are, since a capture shows the text from its own start.
-/

namespace SqlRender

mutual

/-- A row with a text in front of what it shows. -/
def Row.after (front : String) : Row → Row
  | ⟨sql, binds, parts, result, fault, steps⟩ =>
    ⟨front ++ sql, binds, parts, result, fault,
      match result with
      | .chunks _ => steps
      | _ => Row.insideAfter front steps⟩

/-- The rows of the steps inside, if there are any, with a text in front of what they show. -/
def Row.insideAfter (front : String) : Option (List Row) → Option (List Row)
  | none => none
  | some rows => some (Row.allAfter front rows)

/-- Rows with a text in front of what they show. -/
def Row.allAfter (front : String) : List Row → List Row
  | [] => []
  | row :: rows => row.after front :: Row.allAfter front rows

end

theorem Row.allAfter_append (front : String) (rows rows' : List Row) :
    Row.allAfter front (rows ++ rows') = Row.allAfter front rows ++ Row.allAfter front rows' := by
  induction rows with
  | nil => rfl
  | cons row rows ih => simp [Row.allAfter, ih]

/-- What a step gives, with a text in front of what the rows inside show. -/
def StepResult.after (front : String) :
    StepResult × Option (List Row) → StepResult × Option (List Row)
  | (.chunks texts, steps) => (.chunks texts, steps)
  | (result, steps) => (result, Row.insideAfter front steps)

/-- A session with `w` written in front. -/
def SessionState.after (w : Written) (s : SessionState) : SessionState where
  serializer := s.serializer.after w
  pending := s.pending
  rows := Row.allAfter (String.join w.chunks) s.rows

namespace Session

/-- Run with the text put aside, and write it afterwards. -/
def writtenBack {α : Type} (steps : Session α) : Session α := do
  let (a, chunks) ← captured steps
  act (Rendering.write (String.join chunks))
  return a

/-- If the first steps end well behind `w`, the second end well on their own. What the first give
and leave is what the second give and leave, moved behind `w`. -/
def Retraces {α : Type} (w : Written) (move : α → α) (behind own : Session α) : Prop :=
  ∀ s b u, behind (s.after w) = .ok b u →
    ∃ a t, own s = .ok a t ∧ b = move a ∧ u = t.after w

theorem bind_eq_ok {α β : Type} {m : Session α} {k : α → Session β} {s u : SessionState} {b : β} :
    (m >>= k) s = .ok b u ↔ ∃ a t, m s = .ok a t ∧ k a t = .ok b u := by
  show EStateM.bind m k s = .ok b u ↔ _
  unfold EStateM.bind
  cases h : m s with
  | ok a t =>
      constructor
      · intro hk
        exact ⟨a, t, rfl, hk⟩
      · rintro ⟨a', t', heq, hk⟩
        cases heq
        exact hk
  | error fault t => simp

theorem inside_eq_ok {steps : Session Unit} {s u : SessionState} {rows : List Row} :
    inside steps s = .ok rows u ↔
      ∃ t, steps { s with rows := [] } = .ok () t ∧ rows = t.rows ∧
        u = { t with rows := s.rows } := by
  unfold inside
  cases steps { s with rows := [] } with
  | ok a t =>
      constructor
      · intro h
        cases h
        exact ⟨t, rfl, rfl, rfl⟩
      · rintro ⟨t', heq, rfl, rfl⟩
        cases heq
        rfl
  | error fault t => simp

theorem captured_eq_ok {α : Type} {steps : Session α} {s u : SessionState}
    {given : α × List String} :
    captured steps s = .ok given u ↔
      ∃ a t, steps { s with serializer := { s.serializer with written := {} } } = .ok a t ∧
        given = (a, t.serializer.written.chunks) ∧
        u = { t with serializer := { t.serializer with written := s.serializer.written } } := by
  unfold captured
  cases steps { s with serializer := { s.serializer with written := {} } } with
  | ok a t =>
      constructor
      · intro h
        cases h
        exact ⟨a, t, rfl, rfl, rfl⟩
      · rintro ⟨a', t', heq, rfl, rfl⟩
        cases heq
        rfl
  | error fault t => simp

namespace Retraces

variable {α β : Type} {w : Written}

theorem pure {move : α → α} {a b : α} (moved : b = move a) :
    Retraces w move (Pure.pure b) (Pure.pure a) := by
  intro s b u h
  cases h
  exact ⟨a, s, rfl, moved, rfl⟩

theorem bind {m m' : Session α} {k k' : α → Session β} {move : α → α} {move' : β → β}
    (hm : Retraces w move m m') (hk : ∀ a, Retraces w move' (k (move a)) (k' a)) :
    Retraces w move' (m >>= k) (m' >>= k') := by
  intro s b u h
  obtain ⟨a', u', hfirst, hrest⟩ := bind_eq_ok.1 h
  obtain ⟨a, t, hfirst', rfl, rfl⟩ := hm s a' u' hfirst
  obtain ⟨b', t', hrest', rfl, rfl⟩ := hk a t b u hrest
  exact ⟨b', t', bind_eq_ok.2 ⟨a, t, hfirst', hrest'⟩, rfl, rfl⟩

/-- What is done to the serializer is local. -/
theorem act {action : Rendering α} (h : action.IsLocal) :
    Retraces w id (act action) (act action) := by
  intro s b u heq
  unfold Session.act at heq
  rw [show (s.after w).serializer = s.serializer.after w from rfl, h w s.serializer] at heq
  cases hend : action s.serializer with
  | ok a t =>
      rw [hend] at heq
      cases heq
      exact ⟨b, { s with serializer := t }, by simp [Session.act, hend], rfl, rfl⟩
  | error fault t =>
      rw [hend] at heq
      cases heq

theorem addParts (parts : List Draft) : Retraces w id (addParts parts) (addParts parts) := by
  intro s b u h
  cases h
  exact ⟨(), _, rfl, rfl, rfl⟩

/-- A row is noted where what is written is text, which it is behind `w` only if it is text on its
own. -/
theorem observe {step : Session (StepResult × Option (List Row))}
    (h : Retraces w (StepResult.after (String.join w.chunks)) step step) :
    Retraces w id (observe step) (observe step) := by
  intro s b u hobs
  unfold Session.observe at hobs
  split at hobs
  · cases hobs
  · rename_i result steps u' hstep
    obtain ⟨⟨result', steps'⟩, t, hstep', hgiven, rfl⟩ := h s _ _ hstep
    split at hobs
    · cases hobs
    · rename_i sql htext
      obtain ⟨before, own, hbefore, hown, rfl⟩ := Written.text_append_eq_ok.1 htext
      obtain ⟨-, rfl⟩ := Written.text_eq_ok.1 hbefore
      cases hobs
      refine ⟨(), { t with rows := t.rows ++ [⟨own, t.serializer.binds, t.pending.map List.length,
        result', none, steps'⟩] }, ?_, rfl, ?_⟩
      · unfold Session.observe
        rw [hstep']
        simp only [hown]
      · simp only [SessionState.after, Row.allAfter_append]
        cases result' <;> cases hgiven <;> rfl

/-- The rows of a run start anew inside, with `w` in front as outside. -/
theorem inside {steps : Session Unit} (h : Retraces w id steps steps) :
    Retraces w (Row.allAfter (String.join w.chunks)) (inside steps) (inside steps) := by
  intro s b u hrun
  obtain ⟨u', hsteps, rfl, rfl⟩ := inside_eq_ok.1 hrun
  obtain ⟨_, t, hsteps', _, rfl⟩ := h { s with rows := [] } _ _ hsteps
  exact ⟨t.rows, { t with rows := s.rows }, inside_eq_ok.2 ⟨t, hsteps', rfl, rfl⟩, rfl, rfl⟩

/-- A new statement has no parts, with or without `w`. -/
theorem collected {steps : Session α} {move : α → α} (h : Retraces w move steps steps) :
    Retraces w (fun given => (move given.1, given.2)) (collected steps) (collected steps) := by
  intro s b u hrun
  unfold Session.collected at hrun
  split at hrun
  · rename_i a' u' hsteps
    obtain ⟨a, t, hsteps', rfl, rfl⟩ := h { s with pending := some [] } _ _ hsteps
    cases hrun
    exact ⟨(a, t.pending.getD []), { t with pending := s.pending },
      by simp [Session.collected, hsteps'], rfl, rfl⟩
  · cases hrun

/-- Steps whose text is put aside start with nothing written. So they do not come behind `w` at all,
and give what they give on their own. -/
theorem captured_inside (steps : Session Unit) :
    Retraces w id (captured (Session.inside steps)) (captured (Session.inside steps)) := by
  intro s b u hrun
  obtain ⟨rows, t, hinside, rfl, rfl⟩ := captured_eq_ok.1 hrun
  obtain ⟨own, hsteps, rfl, rfl⟩ := inside_eq_ok.1 hinside
  -- the steps start from the same state without `w`
  have hcaptured : captured (Session.inside steps) s =
      .ok (own.rows, own.serializer.written.chunks)
        ⟨{ own.serializer with written := s.serializer.written }, own.pending, s.rows⟩ :=
    captured_eq_ok.2 ⟨_, _, inside_eq_ok.2 ⟨own, hsteps, rfl, rfl⟩, rfl, rfl⟩
  exact ⟨_, _, hcaptured, rfl, rfl⟩

end Retraces

end Session

open Session Rendering

mutual

/-- A step behind `w` does what it does on its own. -/
theorem Step.perform_retraces (d : Dialect) (w : Written) (step : Step) :
    Retraces w (StepResult.after (String.join w.chunks)) (step.perform d) (step.perform d) := by
  cases step with
  | write text =>
      rw [perform]
      exact (Retraces.act (.write text)).bind fun _ => .pure rfl
  | bind value =>
      rw [perform]
      exact (Retraces.act (.writeBind d.placeholder value)).bind fun _ => .pure rfl
  | render e =>
      rw [perform]
      exact (Retraces.act (.render _)).bind fun _ => .pure rfl
  | serialize e =>
      rw [perform]
      exact (Retraces.act (e.render_isLocal d)).bind fun _ => .pure rfl
  | capture steps =>
      rw [perform]
      exact (Retraces.captured_inside (runAll d steps)).bind fun _ => .pure rfl
  | statement steps =>
      rw [perform]
      refine (Retraces.collected (.inside (runAll_retraces d w steps))).bind ?_
      rintro ⟨rows, parts⟩ s b u h
      -- the parts are rendered at the end, behind whatever the steps wrote
      dsimp only at h ⊢
      split at h
      · rename_i hphrase
        obtain ⟨⟨⟩, t, hphrase', -, rfl⟩ :=
          Retraces.act (Draft.run_isLocal d.placeholder (.phrase parts)) s _ _ hphrase
        cases h
        exact ⟨(.nothing, some rows), t, by simp [hphrase'], rfl, rfl⟩
      · cases h
  | append parts =>
      rw [perform]
      exact (Retraces.addParts _).bind fun _ => .pure rfl
  | appendClause keyword body =>
      rw [perform]
      exact (Retraces.addParts _).bind fun _ => .pure rfl
  | raise message =>
      intro s b u h
      cases h

/-- Steps behind `w` do what they do on their own. -/
theorem Step.runAll_retraces (d : Dialect) (w : Written) (steps : List Step) :
    Retraces w id (runAll d steps) (runAll d steps) := by
  cases steps with
  | nil => exact .pure rfl
  | cons step steps =>
      rw [runAll]
      exact (Retraces.observe (step.perform_retraces d w)).bind fun _ =>
        Step.runAll_retraces d w steps

end

/-- Steps that end well leave text behind text, since each step shows it. -/
theorem Step.runAll_stray (d : Dialect) (steps : List Step) (s t : SessionState)
    (start : s.serializer.written.stray = none) (h : runAll d steps s = .ok () t) :
    t.serializer.written.stray = none := by
  induction steps generalizing s with
  | nil =>
      cases h
      exact start
  | cons step steps ih =>
      rw [runAll] at h
      obtain ⟨⟨⟩, u, hstep, hrest⟩ := Session.bind_eq_ok.1 h
      refine ih u ?_ hrest
      unfold observe at hstep
      split at hstep
      · cases hstep
      · split at hstep
        · cases hstep
        · rename_i htext
          cases hstep
          exact (Written.text_eq_ok.1 htext).1

/-- **Writing back is writing.** Steps that end well, in whatever state of the session, can be run
with their text put aside. Writing the text afterwards leaves the same text, values, warnings and
parts of the statement as running them in place, and the steps show the same rows, but for the text
before them. -/
theorem Step.capture_write_back (d : Dialect) (steps : List Step) (s t : SessionState)
    (rows : List Row) (h : inside (runAll d steps) s = .ok rows t) :
    ∃ rows' t', writtenBack (inside (runAll d steps)) s = .ok rows' t' ∧
      t'.serializer.written.text = t.serializer.written.text ∧
      t'.serializer.binds = t.serializer.binds ∧
      t'.serializer.warnings = t.serializer.warnings ∧
      t'.pending = t.pending ∧
      rows = Row.allAfter s.serializer.sql rows' := by
  obtain ⟨⟨w, binds, warnings⟩, pending, before⟩ := s
  obtain ⟨u, hrun, rfl, rfl⟩ := inside_eq_ok.1 h
  -- in place, the steps run behind `w`; put aside, they run on their own
  have start : (⟨⟨w, binds, warnings⟩, pending, []⟩ : SessionState) =
      SessionState.after w ⟨⟨{}, binds, warnings⟩, pending, []⟩ := by
    simp [SessionState.after, Serializer.after, Row.allAfter]
  rw [start] at hrun
  obtain ⟨_, own, hown, _, rfl⟩ := runAll_retraces d w steps _ _ _ hrun
  have text : own.serializer.written.stray = none := runAll_stray d steps _ own rfl hown
  have aside : captured (inside (runAll d steps)) ⟨⟨w, binds, warnings⟩, pending, before⟩ =
      .ok (own.rows, own.serializer.written.chunks)
        ⟨{ own.serializer with written := w }, own.pending, before⟩ :=
    captured_eq_ok.2 ⟨_, _, inside_eq_ok.2 ⟨own, hown, rfl, rfl⟩, rfl, rfl⟩
  obtain ⟨u, hwrite, hwritten⟩ := Rendering.write_join w own.serializer text
  refine ⟨own.rows, ⟨{ own.serializer with written := u }, own.pending, before⟩, ?_, hwritten,
    rfl, rfl, rfl, rfl⟩
  refine Session.bind_eq_ok.2 ⟨_, _, aside, ?_⟩
  refine Session.bind_eq_ok.2 ⟨(), _, ?_, rfl⟩
  unfold Session.act
  rw [hwrite]

/-- Steps with a capture and a statement among them, whose parts are bound last. -/
def Step.nestedSteps : List Step :=
  [.write "x = ", .bind (.int 1),
    .capture [.write "aside ", .bind (.int 2)],
    .statement [.append [.value (.text ", y"), .value .null],
      .appendClause "=" (.node (.bind (.value (.int 3))))],
    .append [.node (.raw "z")],
    .render (.node (.identifier "a"))]

/-- The state of a session inside a statement, after some text and a value. -/
def SessionState.updating : SessionState where
  serializer := ⟨⟨["SET "], none⟩, [.null], []⟩
  pending := some [.text "UPDATE"]

theorem Step.capture_write_back_nested :
    ∃ rows t, inside (runAll .postgresql nestedSteps) .updating = .ok rows t ∧
      ∃ rows' t', writtenBack (inside (runAll .postgresql nestedSteps)) .updating = .ok rows' t' ∧
        t'.serializer.written.text = .ok "SET x = $2, y = $4" ∧
        t'.serializer.binds = [.null, .int 1, .int 2, .int 3] ∧
        t'.pending.map List.length = some 2 ∧
        rows = Row.allAfter "SET " rows' := by
  have ends : inside (runAll .postgresql nestedSteps) .updating = .ok
      [⟨"SET x = ", [.null], some 1, .nothing, none, none⟩,
        ⟨"SET x = $2", [.null, .int 1], some 1, .nothing, none, none⟩,
        ⟨"SET x = $2", [.null, .int 1, .int 2], some 1, .chunks ["aside ", "$3"], none,
          some [⟨"aside ", [.null, .int 1], some 1, .nothing, none, none⟩,
            ⟨"aside $3", [.null, .int 1, .int 2], some 1, .nothing, none, none⟩]⟩,
        ⟨"SET x = $2, y = $4", [.null, .int 1, .int 2, .int 3], some 1, .nothing, none,
          some [⟨"SET x = $2", [.null, .int 1, .int 2], some 1, .nothing, none, none⟩,
            ⟨"SET x = $2", [.null, .int 1, .int 2], some 2, .nothing, none, none⟩]⟩,
        ⟨"SET x = $2, y = $4", [.null, .int 1, .int 2, .int 3], some 2, .nothing, none, none⟩,
        ⟨"SET x = $2, y = $4", [.null, .int 1, .int 2, .int 3], some 2, .text "\"a\"", none, none⟩]
      ⟨⟨⟨["SET ", "x = ", "$2", ", y", " ", "= $4"], none⟩, [.null, .int 1, .int 2, .int 3], []⟩,
        some [.text "UPDATE", .text "z"], []⟩ := by
    simp only [nestedSteps, runAll, perform, Expr.render, Expr.draft, Expr.piece, Expr.fold_node,
      Expr.fold_value, Node.map, List.map_cons, List.map_nil]
    cbv
  obtain ⟨rows', t', run, text, binds, -, pending, shown⟩ :=
    capture_write_back .postgresql nestedSteps .updating _ _ ends
  exact ⟨_, _, ends, rows', t', run, text, binds, by rw [pending]; rfl, shown⟩

end SqlRender
