import SqlRender.Proofs.Render.Growth
import SqlRender.Proofs.Render.Intercalation

/-!
# What a rendering comes across

The warnings and the faults in a draft stand in the order in which a run comes across them, and
between them the places where chunks are put together to a text. A run goes through these incidents
up to the first that fails, and no further (`Draft.run_follows`). So what is logged of a rendering
are the warnings up to there, the time that it took, and the query if nothing has failed
(`Database.records_of_render`).
-/

namespace SqlRender

open Rendering

/-- What a run may come across. -/
inductive Incident where
  | warn (warning : Warning)
  | fail (fault : Fault)
  /-- Chunks are put together to a text. -/
  | gather

namespace Incident

/-- What an incident warns of. -/
def warning? : Incident → Option Warning
  | .warn warning => some warning
  | _ => none

/-- Whether an incident is a fault. -/
def isFail : Incident → Bool
  | .fail _ => true
  | _ => false

/-- The faults in which a run may end at an incident. Chunks cannot be put together if something
among them is no text. -/
inductive Raises : Incident → Fault → Prop where
  | fail (fault : Fault) : Raises (.fail fault) fault
  | gather (position : Nat) (typeName : String) : Raises .gather (.notText position typeName)

/-- What several incidents warn of in turn. -/
def warned (incidents : List Incident) : List Warning :=
  incidents.filterMap warning?

theorem warned_append (is js : List Incident) : warned (is ++ js) = warned is ++ warned js :=
  List.filterMap_append

/-- Where a run stops: at an incident that raises its fault, or with none left. -/
inductive Stops {α : Type} : EStateM.Result Fault Serializer α → List Incident → Prop where
  | ok (a : α) (s : Serializer) : Stops (.ok a s) []
  | error {incident : Incident} {fault : Fault} (h : incident.Raises fault) (s : Serializer)
    (later : List Incident) : Stops (.error fault s) (incident :: later)

end Incident

open Incident

namespace Draft

mutual

/-- What a run of a draft comes across. -/
def incidents : Draft → List Incident
  | .text _ | .stray _ | .bind _ => []
  | .warn warning => [.warn warning]
  | .fail fault => [.fail fault]
  | .seq parts => allIncidents parts
  | .join _ items => itemIncidents items
  | .clause _ body => incidents body ++ [.gather]

/-- What a run of several drafts comes across. -/
def allIncidents : List Draft → List Incident
  | [] => []
  | d :: ds => incidents d ++ allIncidents ds

/-- What a run of several items comes across, each of which is put together to a text. -/
def itemIncidents : List Draft → List Incident
  | [] => []
  | d :: ds => incidents d ++ [.gather] ++ itemIncidents ds

end

end Draft

/-- What the rendering of an expression comes across. In the end all that was written is put
together. -/
def Expr.incidents (g : Grammar) (e : Expr) : List Incident :=
  (e.draft g).incidents ++ [.gather]

/-! ## Runs -/

/-- A rendering goes through incidents, and warns of what it comes across, up to the first that
fails. -/
def Rendering.Follows {α : Type} (m : Rendering α) (incidents : List Incident) : Prop :=
  ∀ s : Serializer, ∃ reached rest, incidents = reached ++ rest ∧ reached.any isFail = false ∧
    (stateAfter (m s)).warnings = s.warnings ++ warned reached ∧ Stops (m s) rest

theorem Written.text_eq_error {w : Written} {fault : Fault} (h : w.text = .error fault) :
    Raises .gather fault := by
  unfold Written.text at h
  cases hs : w.stray with
  | none =>
      rw [hs] at h
      cases h
  | some stray =>
      rw [hs] at h
      cases h
      exact .gather stray.position stray.typeName

namespace Rendering.Follows

variable {α β : Type}

theorem pure (a : α) : Follows (Pure.pure a) [] :=
  fun s => ⟨[], [], rfl, rfl, (List.append_nil _).symm, .ok a s⟩

theorem throw (fault : Fault) : Follows (α := α) (throw fault) [.fail fault] :=
  fun s => ⟨[], [.fail fault], rfl, rfl, (List.append_nil _).symm, .error (.fail fault) s []⟩

theorem warn (warning : Warning) : Follows (warn warning) [.warn warning] :=
  fun _ => ⟨[.warn warning], [], rfl, rfl, rfl, .ok () _⟩

theorem write (text : String) : Follows (write text) [] := by
  intro s
  have hsame : (stateAfter (Rendering.write text s)).warnings = s.warnings := by
    rw [Rendering.write, stateAfter]
    split <;> rfl
  exact ⟨[], [], rfl, rfl, hsame.trans (List.append_nil _).symm, .ok () _⟩

theorem writeStray (typeName : String) : Follows (writeStray typeName) [] :=
  fun s : Serializer => ⟨[], [], rfl, rfl, (List.append_nil s.warnings).symm, .ok () _⟩

theorem writeBind (placeholder : Int → String) (value : Value) :
    Follows (writeBind placeholder value) [] :=
  fun s => write (placeholder (s.binds.length + 1)) { s with binds := s.binds ++ [value] }

theorem separator (separator : Separator) : Follows separator.write [] := by
  cases separator with
  | text s => exact write s
  | stray typeName => exact writeStray typeName

/-- A fault ends both halves of a run, and then the second one has not begun. -/
theorem bind {m : Rendering α} {k : α → Rendering β} {is js : List Incident} (hm : Follows m is)
    (hk : ∀ a, Follows (k a) js) : Follows (m >>= k) (is ++ js) := by
  intro s
  obtain ⟨reached, rest, rfl, hreached, hwarnings, hstops⟩ := hm s
  cases hrun : m s with
  | ok a t =>
      rw [hrun] at hwarnings hstops
      cases hstops
      obtain ⟨reached', rest', rfl, hreached', hwarnings', hstops'⟩ := hk a t
      refine ⟨reached ++ reached', rest', ?_, ?_, ?_, ?_⟩
      · rw [List.append_nil, List.append_assoc]
      · rw [List.any_append, hreached, hreached', Bool.or_self]
      · rw [bind_of_ok hrun, hwarnings', warned_append, ← List.append_assoc]
        exact congrArg (· ++ warned reached') hwarnings
      · rw [bind_of_ok hrun]
        exact hstops'
  | error fault t =>
      rw [hrun] at hwarnings hstops
      cases hstops with
      | @error incident _ hraises _ later =>
          refine ⟨reached, incident :: (later ++ js), ?_, hreached, ?_, ?_⟩
          · rw [List.append_assoc, List.cons_append]
          · rw [bind_of_error hrun]
            exact hwarnings
          · rw [bind_of_error hrun]
            exact .error hraises t (later ++ js)

/-- What is rendered on its own is put together in the end, whatever was written before. -/
theorem render {body : Rendering Unit} {is : List Incident} (h : Follows body is) :
    Follows (render body) (is ++ [.gather]) := by
  intro s
  obtain ⟨reached, rest, rfl, hreached, hwarnings, hstops⟩ := h { s with written := {} }
  rw [render_eq]
  cases hrun : body { s with written := {} } with
  | error fault t =>
      rw [hrun] at hwarnings hstops
      cases hstops with
      | @error incident _ hraises _ later =>
          refine ⟨reached, incident :: (later ++ [.gather]), ?_, hreached, hwarnings,
            .error hraises _ _⟩
          rw [List.append_assoc, List.cons_append]
  | ok _ t =>
      rw [hrun] at hwarnings hstops
      cases hstops
      rw [finish]
      cases htext : t.written.text with
      | error fault =>
          refine ⟨reached, [.gather], ?_, hreached, hwarnings,
            .error (Written.text_eq_error htext) _ []⟩
          rw [List.append_nil]
      | ok text =>
          refine ⟨reached ++ [.gather], [], ?_, ?_, ?_, .ok text _⟩
          · rw [List.append_nil, List.append_nil]
          · rw [List.any_append, hreached]
            rfl
          · rw [warned_append]
            exact hwarnings.trans (congrArg (s.warnings ++ ·) (List.append_nil _).symm)

end Rendering.Follows

namespace Draft

variable (placeholder : Int → String)

mutual

/-- A run goes through the incidents of its draft. -/
theorem run_follows (d : Draft) : Follows (d.run placeholder) d.incidents := by
  cases d with
  | text s => exact .write s
  | stray typeName => exact .writeStray typeName
  | bind value => exact .writeBind placeholder value
  | warn warning => exact .warn warning
  | fail fault => exact .throw fault
  | seq parts => exact runAll_follows parts
  | join separator items => exact runJoined_follows separator true items
  | clause keyword body =>
      rw [run, incidents, ← List.append_nil (_ ++ _)]
      refine (Follows.render (run_follows body)).bind fun text => ?_
      split
      · exact .pure ()
      · exact .write _

theorem runAll_follows (ds : List Draft) : Follows (runAll placeholder ds) (allIncidents ds) := by
  cases ds with
  | nil => exact .pure ()
  | cons d ds => exact (run_follows d).bind fun _ => runAll_follows ds

theorem runJoined_follows (separator : Separator) (first : Bool) (ds : List Draft) :
    Follows (runJoined placeholder separator.write first ds) (itemIncidents ds) := by
  cases ds with
  | nil => exact .pure ()
  | cons d ds =>
      rw [runJoined_cons, itemIncidents]
      refine (Follows.render (run_follows d)).bind fun text => ?_
      split
      · exact runJoined_follows separator first ds
      · -- neither the separator nor the text of the item adds an incident
        have hrest := (Follows.write text).bind fun _ => runJoined_follows separator false ds
        cases first with
        | true => exact (Follows.pure ()).bind fun _ => hrest
        | false => exact (Follows.separator separator).bind fun _ => hrest

end

end Draft

end SqlRender
