import SqlRender.Render.Session
import SqlRender.Proofs.Render.Frame

/-!
# Serializers only grow

Whatever is done with a serializer, and however that ends, what was written before stays in front of
what is written afterwards, and so do the values and the warnings. A fault makes no difference to
this, since a capture brings back what was written before on both ways out.
-/

namespace SqlRender

/-- The state in which a run ends, well or in a fault. -/
def stateAfter {ε σ α : Type} : EStateM.Result ε σ α → σ
  | .ok _ s => s
  | .error _ s => s

/-! ## Serializers that have grown -/

theorem Written.append_assoc (w v u : Written) :
    (w.append v).append u = w.append (v.append u) := by
  cases hw : w.stray <;> cases hv : v.stray <;> cases hu : u.stray <;>
    simp [append, hw, hv, hu, Nat.add_assoc]

/-- The second serializer is the first with more written, bound and warned of. -/
structure Serializer.Extends (s t : Serializer) : Prop where
  written : ∃ more, t.written = s.written.append more
  binds : s.binds <+: t.binds
  warnings : s.warnings <+: t.warnings

namespace Serializer.Extends

variable {s t u : Serializer}

theorem refl (s : Serializer) : s.Extends s :=
  ⟨⟨{}, by simp⟩, List.prefix_rfl, List.prefix_rfl⟩

theorem trans (h : s.Extends t) (h' : t.Extends u) : s.Extends u where
  written := by
    obtain ⟨more, hmore⟩ := h.written
    obtain ⟨yet, hyet⟩ := h'.written
    exact ⟨more.append yet, by rw [hyet, hmore, Written.append_assoc]⟩
  binds := h.binds.trans h'.binds
  warnings := h.warnings.trans h'.warnings

/-- The text before stays in front. -/
theorem sql (h : s.Extends t) : ∃ more, t.sql = s.sql ++ more := by
  obtain ⟨more, hmore⟩ := h.written
  refine ⟨String.join more.chunks, ?_⟩
  rw [Serializer.sql, hmore, Written.append, String.join_append]
  rfl

/-- With the text from before brought back, only values and warnings have been added. -/
theorem restored (h : Extends { s with written := {} } t) :
    s.Extends { t with written := s.written } :=
  ⟨⟨{}, by simp⟩, h.binds, h.warnings⟩

end Serializer.Extends

open Rendering

/-- A rendering that only adds to a serializer, also if it ends in a fault. -/
def Rendering.Grows {α : Type} (m : Rendering α) : Prop :=
  ∀ s : Serializer, s.Extends (stateAfter (m s))

namespace Rendering.Grows

variable {α β : Type}

theorem pure (a : α) : Grows (Pure.pure a) :=
  .refl

theorem throw (fault : Fault) : Grows (α := α) (throw fault) :=
  .refl

theorem bind {m : Rendering α} {k : α → Rendering β} (hm : Grows m) (hk : ∀ a, Grows (k a)) :
    Grows (m >>= k) := by
  intro s
  have hfirst := hm s
  show s.Extends (stateAfter (EStateM.bind m k s))
  unfold EStateM.bind
  cases hrun : m s with
  | ok a t =>
      rw [hrun] at hfirst
      exact hfirst.trans (hk a t)
  | error fault t =>
      rw [hrun] at hfirst
      exact hfirst

theorem write (text : String) : Grows (write text) := by
  intro s
  by_cases h : text.isEmpty
  · simpa [Rendering.write, stateAfter, h] using Serializer.Extends.refl s
  · refine ⟨⟨⟨[text], none⟩, ?_⟩, ?_, ?_⟩ <;>
      simp [Rendering.write, stateAfter, h, Written.append]

theorem writeStray (typeName : String) : Grows (writeStray typeName) :=
  fun _ => ⟨⟨⟨[], some ⟨0, typeName⟩⟩, by simp [Rendering.writeStray, stateAfter, Written.append]⟩,
    List.prefix_rfl, List.prefix_rfl⟩

theorem writeBind (placeholder : Int → String) (value : Value) :
    Grows (writeBind placeholder value) := by
  intro s
  have bound : s.Extends { s with binds := s.binds ++ [value] } :=
    ⟨⟨{}, by simp⟩, List.prefix_append _ _, List.prefix_rfl⟩
  exact bound.trans (write (placeholder (s.binds.length + 1)) _)

theorem warn (warning : Warning) : Grows (warn warning) :=
  fun _ => ⟨⟨{}, by simp [Rendering.warn, stateAfter]⟩, List.prefix_rfl, List.prefix_append _ _⟩

theorem separator (separator : Separator) : Grows separator.write := by
  cases separator with
  | text s => exact write s
  | stray typeName => exact writeStray typeName

theorem capture {body : Rendering Unit} (h : Grows body) : Grows (capture body) := by
  intro s
  have hbody := h { s with written := {} }
  unfold Rendering.capture
  -- both ways out bring back what was written
  cases hrun : body { s with written := {} } with
  | ok _ t =>
      rw [hrun] at hbody
      exact hbody.restored
  | error fault t =>
      rw [hrun] at hbody
      exact hbody.restored

theorem render {body : Rendering Unit} (h : Grows body) : Grows (render body) := by
  refine (capture h).bind fun written => ?_
  cases written.text with
  | ok text => exact pure text
  | error fault => exact throw fault

end Rendering.Grows

/-- Whatever a render does, what is written is what was written before. -/
theorem Rendering.written_render (body : Rendering Unit) (s : Serializer) :
    (stateAfter (render body s)).written = s.written := by
  show (stateAfter (EStateM.bind (capture body) _ s)).written = _
  unfold EStateM.bind capture
  cases body { s with written := {} } with
  | error fault t => rfl
  | ok _ t =>
      dsimp only
      cases t.written.text <;> rfl

namespace Draft

variable (placeholder : Int → String)

mutual

/-- Running a draft only adds to a serializer. -/
theorem run_grows (d : Draft) : Grows (d.run placeholder) := by
  cases d with
  | text s => exact .write s
  | stray typeName => exact .writeStray typeName
  | bind value => exact .writeBind placeholder value
  | warn warning => exact .warn warning
  | fail fault => exact .throw fault
  | seq parts => exact runAll_grows parts
  | join separator items => exact runJoined_grows separator true items
  | clause keyword body =>
      rw [run]
      refine (Grows.render (run_grows body)).bind fun text => ?_
      split
      · exact .pure ()
      · exact .write _

theorem runAll_grows (ds : List Draft) : Grows (runAll placeholder ds) := by
  cases ds with
  | nil => exact .pure ()
  | cons d ds => exact (run_grows d).bind fun _ => runAll_grows ds

theorem runJoined_grows (separator : Separator) (first : Bool) (ds : List Draft) :
    Grows (runJoined placeholder separator.write first ds) := by
  cases ds with
  | nil => exact .pure ()
  | cons d ds =>
      rw [runJoined]
      refine (Grows.render (run_grows d)).bind fun text => ?_
      split
      · exact runJoined_grows separator first ds
      · have rest := (Grows.write text).bind fun _ => runJoined_grows separator false ds
        cases first with
        | true => exact rest
        | false => exact (Grows.separator separator).bind fun _ => rest

end

end Draft

/-- Rendering an expression only adds to a serializer, whether or not it fails. -/
theorem Expr.render_grows (d : Dialect) (e : Expr) : Grows (e.render d) :=
  Draft.run_grows d.placeholder (e.draft d.toGrammar)

/-! ## Sessions -/

/-- A computation in a session that only adds to the serializer. -/
def Session.Grows {α : Type} (m : Session α) : Prop :=
  ∀ s : SessionState, s.serializer.Extends (stateAfter (m s)).serializer

namespace Session.Grows

variable {α β : Type}

theorem pure (a : α) : Grows (Pure.pure a) :=
  fun s => .refl s.serializer

theorem bind {m : Session α} {k : α → Session β} (hm : Grows m) (hk : ∀ a, Grows (k a)) :
    Grows (m >>= k) := by
  intro s
  have hfirst := hm s
  show s.serializer.Extends (stateAfter (EStateM.bind m k s)).serializer
  unfold EStateM.bind
  cases hrun : m s with
  | ok a t =>
      rw [hrun] at hfirst
      exact hfirst.trans (hk a t)
  | error e t =>
      rw [hrun] at hfirst
      exact hfirst

theorem act {action : Rendering α} (h : action.Grows) : Grows (act action) := by
  intro s
  have haction := h s.serializer
  unfold Session.act
  cases hrun : action s.serializer <;> (rw [hrun] at haction; exact haction)

theorem addParts (parts : List Draft) : Grows (addParts parts) :=
  fun s => .refl s.serializer

theorem observe {step : Session (StepResult × Option (List Row))} (h : Grows step) :
    Grows (observe step) := by
  intro s
  have hstep := h s
  unfold Session.observe
  cases hrun : step s with
  | error e t =>
      rw [hrun] at hstep
      exact hstep
  | ok given t =>
      rw [hrun] at hstep
      obtain ⟨result, steps⟩ := given
      -- a row is noted, whether or not what is written is text
      dsimp only
      cases t.serializer.written.text <;> exact hstep

theorem inside {steps : Session Unit} (h : Grows steps) : Grows (inside steps) := by
  intro s
  have hsteps := h { s with rows := [] }
  unfold Session.inside
  cases hrun : steps { s with rows := [] } <;> (rw [hrun] at hsteps; exact hsteps)

theorem captured {steps : Session α} (h : Grows steps) : Grows (captured steps) := by
  intro s
  have hsteps := h { s with serializer := { s.serializer with written := {} } }
  unfold Session.captured
  cases hrun : steps { s with serializer := { s.serializer with written := {} } } <;>
    (rw [hrun] at hsteps; exact hsteps.restored)

theorem collected {steps : Session α} (h : Grows steps) : Grows (collected steps) := by
  intro s
  have hsteps := h { s with pending := some [] }
  unfold Session.collected
  cases hrun : steps { s with pending := some [] } <;> (rw [hrun] at hsteps; exact hsteps)

end Session.Grows

open Session

mutual

/-- A step only adds to the serializer. -/
theorem Step.perform_grows (d : Dialect) (step : Step) : Session.Grows (step.perform d) := by
  cases step with
  | write text =>
      rw [perform]
      exact (Session.Grows.act (.write text)).bind fun _ => .pure _
  | bind value =>
      rw [perform]
      exact (Session.Grows.act (.writeBind d.placeholder value)).bind fun _ => .pure _
  | render e =>
      rw [perform]
      exact (Session.Grows.act (.render (e.render_grows d))).bind fun _ => .pure _
  | serialize e =>
      rw [perform]
      exact (Session.Grows.act (e.render_grows d)).bind fun _ => .pure _
  | capture steps =>
      rw [perform]
      exact (Session.Grows.captured (.inside (runAll_grows d steps))).bind fun _ => .pure _
  | statement steps =>
      rw [perform]
      refine (Session.Grows.collected (.inside (runAll_grows d steps))).bind ?_
      rintro ⟨rows, parts⟩ s
      have hphrase := Session.Grows.act (Draft.run_grows d.placeholder (.phrase parts)) s
      dsimp only
      cases hrun : act ((Draft.phrase parts).run d.placeholder) s <;>
        (rw [hrun] at hphrase; exact hphrase)
  | append parts =>
      rw [perform]
      exact (Session.Grows.addParts _).bind fun _ => .pure _
  | appendClause keyword body =>
      rw [perform]
      exact (Session.Grows.addParts _).bind fun _ => .pure _
  | raise message => exact fun s => .refl s.serializer

/-- Steps only add to the serializer, up to the one that fails. -/
theorem Step.runAll_grows (d : Dialect) (steps : List Step) : Session.Grows (runAll d steps) := by
  cases steps with
  | nil => exact .pure ()
  | cons step steps =>
      rw [runAll]
      exact (Session.Grows.observe (perform_grows d step)).bind fun _ => runAll_grows d steps

end

/-- The state after a step of a session that goes on whether or not the step fails, as long as what
is written is text. -/
def Step.advance (d : Dialect) (s : SessionState) (step : Step) : Except Fault SessionState :=
  (stateAfter (observe (step.perform d) s)).serializer.written.text.map fun _ =>
    stateAfter (observe (step.perform d) s)

theorem Step.session_eq (d : Dialect) (steps : List Step) :
    session d steps = steps.foldlM (advance d) {} := by
  unfold session
  congr 1
  funext s step
  unfold advance stateAfter
  cases observe (step.perform d) s <;> rfl

theorem Step.advance_grows {d : Dialect} {s t : SessionState} {step : Step}
    (h : advance d s step = .ok t) : s.serializer.Extends t.serializer := by
  have hgrows := Session.Grows.observe (step.perform_grows d) s
  unfold advance at h
  generalize stateAfter (observe (step.perform d) s) = u at h hgrows
  cases htext : u.serializer.written.text with
  | error fault =>
      rw [htext] at h
      cases h
  | ok sql =>
      rw [htext] at h
      cases h
      exact hgrows

/-- A session that goes on after steps that failed only adds to the serializer too. -/
theorem Step.session_grows (d : Dialect) (before after : List Step) (t : SessionState)
    (h : session d (before ++ after) = .ok t) :
    ∃ s, session d before = .ok s ∧ s.serializer.Extends t.serializer := by
  rw [session_eq, List.foldlM_append, ← session_eq] at h
  cases hbefore : session d before with
  | error fault =>
      rw [hbefore] at h
      cases h
  | ok s =>
      rw [hbefore] at h
      refine ⟨s, rfl, ?_⟩
      replace h : after.foldlM (advance d) s = .ok t := h
      clear hbefore
      induction after generalizing s with
      | nil =>
          cases h
          exact .refl t.serializer
      | cons step steps ih =>
          rw [List.foldlM_cons] at h
          cases hstep : advance d s step with
          | error fault =>
              rw [hstep] at h
              cases h
          | ok u =>
              rw [hstep] at h
              exact (advance_grows hstep).trans (ih u h)

end SqlRender
