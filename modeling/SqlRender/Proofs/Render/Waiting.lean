import Mathlib
import SqlRender.Dialect.Builtin
import SqlRender.Proofs.Render.Growth
import SqlRender.Proofs.Render.WriteBack

/-!
# What waits and what stays

The parts of a statement wait for its end, and until then they leave no trace in the serializer: a
session does the same to it whatever parts wait (`Session.IgnoresParts`). So a statement whose steps
fail is left as if there had been no statement to append the parts to.

The main statement is `Step.written_stays`: what a session does with a serializer, with or without a
fault, and with text and parts that are put aside.
-/

namespace SqlRender

open Session

/-! ## Parts that wait -/

/-- Two ends of a session with the same serializer, and the same fault if there is one. What has
become of the parts and of the rows may differ. -/
inductive Session.SameEffect {α : Type} :
    EStateM.Result StepFault SessionState α → EStateM.Result StepFault SessionState α → Prop where
  | ok {a b : α} {s t : SessionState} : s.serializer = t.serializer → SameEffect (.ok a s) (.ok b t)
  | error {e f : StepFault} {s t : SessionState} : e.fault = f.fault →
    s.serializer = t.serializer → SameEffect (.error e s) (.error f t)

/-- A computation that does the same to a serializer whatever parts wait and whatever rows have been
noted. -/
def Session.IgnoresParts {α : Type} (m : Session α) : Prop :=
  ∀ s t : SessionState, s.serializer = t.serializer → SameEffect (m s) (m t)

namespace Session.IgnoresParts

variable {α β : Type}

theorem pure (a : α) : IgnoresParts (Pure.pure a) :=
  fun _ _ same => .ok same

theorem bind {m : Session α} {k : α → Session β} (hm : IgnoresParts m)
    (hk : ∀ a b s t, s.serializer = t.serializer → SameEffect (k a s) (k b t)) :
    IgnoresParts (m >>= k) := by
  intro s t same
  have hfirst := hm s t same
  show SameEffect (EStateM.bind m k s) (EStateM.bind m k t)
  unfold EStateM.bind
  generalize m s = x at hfirst ⊢
  generalize m t = y at hfirst ⊢
  cases hfirst with
  | ok same' => exact hk _ _ _ _ same'
  | error hfault same' => exact .error hfault same'

/-- What follows a step only says what the step gives. -/
theorem andThen {m : Session α} (hm : IgnoresParts m) (given : α → β) :
    IgnoresParts (m >>= fun a => Pure.pure (given a)) :=
  hm.bind fun _ _ _ _ same => .ok same

theorem act (action : Rendering α) : IgnoresParts (act action) := by
  intro s t same
  unfold Session.act
  rw [same]
  cases action t.serializer with
  | ok a u => exact .ok rfl
  | error fault u => exact .error rfl rfl

theorem addParts (parts : List Draft) : IgnoresParts (addParts parts) :=
  fun _ _ same => .ok same

theorem observe {step : Session (StepResult × Option (List Row))} (h : IgnoresParts step) :
    IgnoresParts (observe step) := by
  intro s t same
  have hstep := h s t same
  unfold Session.observe
  generalize step s = x at hstep ⊢
  generalize step t = y at hstep ⊢
  cases hstep with
  | error hfault same' => exact .error hfault same'
  | @ok a b u v same' =>
      obtain ⟨result, steps⟩ := a
      obtain ⟨result', steps'⟩ := b
      dsimp only
      rw [same']
      cases v.serializer.written.text with
      | error fault => exact .error rfl same'
      | ok sql => exact .ok rfl

theorem inside {steps : Session Unit} (h : IgnoresParts steps) : IgnoresParts (inside steps) := by
  intro s t same
  have hsteps := h { s with rows := [] } { t with rows := [] } same
  unfold Session.inside
  generalize steps { s with rows := [] } = x at hsteps ⊢
  generalize steps { t with rows := [] } = y at hsteps ⊢
  cases hsteps with
  | ok same' => exact .ok same'
  | error hfault same' => exact .error hfault same'

theorem captured {steps : Session α} (h : IgnoresParts steps) : IgnoresParts (captured steps) := by
  intro s t same
  have hsteps := h { s with serializer := { s.serializer with written := {} } }
    { t with serializer := { t.serializer with written := {} } } (by simp only [same])
  unfold Session.captured
  generalize steps { s with serializer := { s.serializer with written := {} } } = x at hsteps ⊢
  generalize steps { t with serializer := { t.serializer with written := {} } } = y at hsteps ⊢
  cases hsteps with
  | ok same' => exact .ok (by simp only [same', same])
  | error hfault same' => exact .error hfault (by simp only [same', same])

/-- The steps of a statement start without parts and rows, so nothing from before is left that they
could see besides the serializer. -/
theorem collected_inside (steps : Session Unit) {k : List Row × List Draft → Session β}
    (hk : ∀ given s t, s.serializer = t.serializer → SameEffect (k given s) (k given t)) :
    IgnoresParts (collected (Session.inside steps) >>= k) := by
  intro s t same
  show SameEffect (EStateM.bind _ k s) (EStateM.bind _ k t)
  unfold EStateM.bind collected Session.inside
  dsimp only
  rw [same]
  cases steps ⟨t.serializer, some [], []⟩ with
  | ok a u => exact hk _ _ _ rfl
  | error e u => exact .error rfl rfl

end Session.IgnoresParts

mutual

theorem Step.perform_ignoresParts (d : Dialect) (step : Step) :
    Session.IgnoresParts (step.perform d) := by
  cases step with
  | write text =>
      rw [perform]
      exact (Session.IgnoresParts.act _).andThen _
  | bind value =>
      rw [perform]
      exact (Session.IgnoresParts.act _).andThen _
  | render e =>
      rw [perform]
      exact (Session.IgnoresParts.act _).andThen _
  | serialize e =>
      rw [perform]
      exact (Session.IgnoresParts.act _).andThen _
  | capture steps =>
      rw [perform]
      exact (Session.IgnoresParts.captured (.inside (runAll_ignoresParts d steps))).andThen _
  | statement steps =>
      rw [perform]
      refine Session.IgnoresParts.collected_inside _ ?_
      rintro ⟨rows, parts⟩ s t same
      have hphrase := Session.IgnoresParts.act ((Draft.phrase parts).run d.placeholder) s t same
      dsimp only
      generalize act ((Draft.phrase parts).run d.placeholder) s = x at hphrase ⊢
      generalize act ((Draft.phrase parts).run d.placeholder) t = y at hphrase ⊢
      cases hphrase with
      | ok same' => exact .ok same'
      | error hfault same' => exact .error hfault same'
  | append parts =>
      rw [perform]
      exact (Session.IgnoresParts.addParts _).andThen _
  | appendClause keyword body =>
      rw [perform]
      exact (Session.IgnoresParts.addParts _).andThen _
  | raise message => exact fun _ _ same => .error rfl same

/-- Parts that wait for the end of a statement leave no trace before it. -/
theorem Step.runAll_ignoresParts (d : Dialect) (steps : List Step) :
    Session.IgnoresParts (runAll d steps) := by
  cases steps with
  | nil => exact .pure ()
  | cons step steps =>
      rw [runAll]
      exact (Session.IgnoresParts.observe (perform_ignoresParts d step)).bind
        fun _ _ s t same => runAll_ignoresParts d steps s t same

end

/-! ## Steps that put text aside -/

/-- A capture leaves what is written as it was, however the steps inside end. -/
theorem Step.written_capture (d : Dialect) (steps : List Step) (s : SessionState) :
    (stateAfter ((capture steps).perform d s)).serializer.written = s.serializer.written := by
  rw [perform]
  show (stateAfter (EStateM.bind (captured (inside (runAll d steps))) _ s)).serializer.written = _
  unfold EStateM.bind captured
  cases inside (runAll d steps)
    { s with serializer := { s.serializer with written := {} } } <;> rfl

/-- A render leaves what is written as it was, also if the expression fails. -/
theorem Step.written_render (d : Dialect) (e : Expr) (s : SessionState) :
    (stateAfter ((render e).perform d s)).serializer.written = s.serializer.written := by
  have hrender := Rendering.written_render (e.render d) s.serializer
  rw [perform]
  show (stateAfter (EStateM.bind (act (Rendering.render (e.render d))) _ s)).serializer.written = _
  unfold EStateM.bind act
  cases hrun : Rendering.render (e.render d) s.serializer <;> (rw [hrun] at hrender; exact hrender)

/-- A statement whose steps fail ends there, with the serializer as the steps have left it. -/
theorem Step.perform_statement_error {d : Dialect} {steps : List Step} {s u : SessionState}
    {e : StepFault}
    (h : runAll d steps { s with pending := some [], rows := [] } = .error e u) :
    (statement steps).perform d s =
      .error ⟨e.fault, some u.rows⟩ { u with pending := s.pending, rows := s.rows } := by
  rw [perform]
  show EStateM.bind (collected (inside (runAll d steps))) _ s = _
  unfold EStateM.bind collected inside
  dsimp only
  rw [h]

/-- **What is written stays.** Steps of a session, whether or not one of them fails and however deep
inside, leave the text and the values from before in front of those that they add; so do steps after
one that failed. A capture and a render leave the text as it was, also if they fail. A statement
whose steps fail leaves the serializer as these have left it, which is how they leave it where there
is no statement to append parts to: no part is rendered. -/
theorem Step.written_stays (d : Dialect) (s : SessionState) :
    (∀ steps, (∃ more, (stateAfter (runAll d steps s)).serializer.sql = s.serializer.sql ++ more) ∧
      s.serializer.binds <+: (stateAfter (runAll d steps s)).serializer.binds) ∧
    (∀ before after u, session d (before ++ after) = .ok u →
      ∃ t, session d before = .ok t ∧ (∃ more, u.serializer.sql = t.serializer.sql ++ more) ∧
        t.serializer.binds <+: u.serializer.binds) ∧
    (∀ steps, (stateAfter ((capture steps).perform d s)).serializer.written =
      s.serializer.written) ∧
    (∀ e, (stateAfter ((render e).perform d s)).serializer.written = s.serializer.written) ∧
    (∀ steps e u, runAll d steps { s with pending := some [], rows := [] } = .error e u →
      ∃ e' t, (statement steps).perform d s = .error e' t ∧ e'.fault = e.fault ∧
        t.serializer = u.serializer ∧
        t.serializer = (stateAfter (runAll d steps { s with pending := none })).serializer) := by
  refine ⟨fun steps => ?_, fun before after u ends => ?_, fun steps => written_capture d steps s,
    fun e => written_render d e s, fun steps e u failed => ?_⟩
  · have hrun := runAll_grows d steps s
    exact ⟨hrun.sql, hrun.binds⟩
  · obtain ⟨t, hbefore, hrun⟩ := session_grows d before after u ends
    exact ⟨t, hbefore, hrun.sql, hrun.binds⟩
  · refine ⟨_, _, perform_statement_error failed, rfl, rfl, ?_⟩
    have hsame := runAll_ignoresParts d steps { s with pending := some [], rows := [] }
      { s with pending := none } rfl
    rw [failed] at hsame
    generalize runAll d steps { s with pending := none } = y at hsame ⊢
    cases hsame with
    | error _ same => exact same

/-- Steps of a statement that append parts, write, and fail inside a capture after a value. -/
def Step.failingSteps : List Step :=
  [.append [.node (.raw "FROM t"), .node (.bind (.value (.int 8)))],
    .write "x",
    .capture [.bind (.int 1), .raise "stop"],
    .write "never"]

theorem Step.written_stays_failing :
    ∃ e u, runAll .postgresql failingSteps { SessionState.updating with pending := some [] } =
        .error e u ∧
      ∃ e' t, (statement failingSteps).perform .postgresql .updating = .error e' t ∧
        e'.fault = .raised "stop" ∧ t.serializer.sql = "SET x" ∧
        t.serializer.binds = [.null, .int 1] := by
  let aside : List Row :=
    [⟨"$2", [.null, .int 1], some 2, .nothing, none, none⟩,
      ⟨"$2", [.null, .int 1], none, .nothing, some (.raised "stop"), none⟩]
  have fails : runAll .postgresql failingSteps { SessionState.updating with pending := some [] } =
      .error ⟨.raised "stop", some aside⟩
        ⟨⟨⟨["SET ", "x"], none⟩, [.null, .int 1], []⟩,
          some [.text "FROM t", .bind (.int 8)],
          [⟨"SET ", [.null], some 2, .nothing, none, none⟩,
            ⟨"SET x", [.null], some 2, .nothing, none, none⟩,
            ⟨"SET x", [.null, .int 1], none, .nothing, some (.raised "stop"), some aside⟩]⟩ := by
    simp only [failingSteps, runAll, perform, Expr.piece, Expr.fold_node, Node.map, List.map_cons,
      List.map_nil]
    cbv
  obtain ⟨e', t, hend, hfault, hleft, -⟩ :=
    (written_stays .postgresql .updating).2.2.2.2 failingSteps _ _ fails
  exact ⟨_, _, fails, e', t, hend, hfault, by rw [hleft]; rfl, by rw [hleft]⟩

end SqlRender
