import SqlRender.Proofs.Render.Growth
import SqlRender.Proofs.Render.Intercalation

/-!
# Renderings without warnings

A rendering is quiet if it warns of nothing, whether or not it ends in a fault
(`Rendering.IsQuiet`). Lists and clauses are as quiet as what is in them. Warnings of a statement
itself are noted before anything else (`Draft.run_announce`).
-/

namespace SqlRender

open Rendering

/-- A rendering that warns of nothing, whether or not it ends in a fault. -/
def Rendering.IsQuiet {α : Type} (m : Rendering α) : Prop :=
  ∀ s : Serializer, (stateAfter (m s)).warnings = s.warnings

namespace Rendering.IsQuiet

variable {α β : Type}

theorem pure (a : α) : IsQuiet (Pure.pure a) :=
  fun _ => rfl

theorem throw (fault : Fault) : IsQuiet (α := α) (throw fault) :=
  fun _ => rfl

theorem bind {m : Rendering α} {k : α → Rendering β} (hm : IsQuiet m) (hk : ∀ a, IsQuiet (k a)) :
    IsQuiet (m >>= k) := by
  intro s
  have hfirst := hm s
  cases hrun : m s with
  | ok a t =>
      rw [hrun] at hfirst
      rw [bind_of_ok hrun]
      exact (hk a t).trans hfirst
  | error fault t =>
      rw [hrun] at hfirst
      rw [bind_of_error hrun]
      exact hfirst

theorem write (text : String) : IsQuiet (write text) := by
  intro s
  unfold Rendering.write
  show Serializer.warnings (if text.isEmpty then s else _) = _
  split <;> rfl

theorem render {body : Rendering Unit} (h : IsQuiet body) : IsQuiet (render body) := by
  intro s
  have hbody := h { s with written := {} }
  rw [render_eq]
  cases hrun : body { s with written := {} } with
  | error fault t =>
      rw [hrun] at hbody
      exact hbody
  | ok a t =>
      rw [hrun] at hbody
      rw [finish]
      cases t.written.text <;> exact hbody

end Rendering.IsQuiet

namespace Draft

variable {placeholder : Int → String}

theorem runJoined_isQuiet (separator : String) (first : Bool) {ds : List Draft}
    (h : ∀ d ∈ ds, IsQuiet (run placeholder d)) :
    IsQuiet (runJoined placeholder (write separator) first ds) := by
  induction ds generalizing first with
  | nil => exact .pure ()
  | cons d ds ih =>
      rw [List.forall_mem_cons] at h
      rw [runJoined_cons]
      refine (IsQuiet.render h.1).bind fun text => ?_
      split
      · exact ih first h.2
      · refine IsQuiet.bind ?_ fun _ => (IsQuiet.write text).bind fun _ => ih false h.2
        split
        · exact .pure ()
        · exact .write separator

/-- A list warns of nothing if its items do not. -/
theorem run_join_isQuiet (separator : String) {ds : List Draft}
    (h : ∀ d ∈ ds, IsQuiet (run placeholder d)) :
    IsQuiet (run placeholder (.join (.text separator) ds)) := by
  rw [run, Separator.write]
  exact runJoined_isQuiet separator true h

theorem run_clause_isQuiet (keyword : String) {d : Draft} (h : IsQuiet (run placeholder d)) :
    IsQuiet (run placeholder (.clause keyword d)) := by
  rw [run]
  refine (IsQuiet.render h).bind fun text => ?_
  split
  · exact .pure ()
  · exact .write _

end Draft

/-! ## Warnings in front -/

/-- Note warnings, one after the other. -/
def Rendering.announce (ws : List Warning) : Rendering Unit := fun s =>
  .ok () { s with warnings := s.warnings ++ ws }

/-- Warnings before a draft are noted before it is run. -/
theorem Draft.run_announce {placeholder : Int → String} (ws : List Warning) (d : Draft) :
    run placeholder (.seq (ws.map .warn ++ [d])) = announce ws >>= fun _ => run placeholder d := by
  rw [run]
  funext s
  have hannounce : announce ws s = .ok () { s with warnings := s.warnings ++ ws } := rfl
  rw [bind_of_ok hannounce]
  induction ws generalizing s with
  | nil =>
      rw [List.map_nil, List.nil_append, runAll, runAll, bind_pure_unit, List.append_nil]
  | cons w ws ih =>
      have hwarn : run placeholder (.warn w) s =
          .ok () { s with warnings := s.warnings ++ [w] } := rfl
      rw [List.map_cons, List.cons_append, runAll, bind_of_ok hwarn, ih _ rfl, List.append_assoc]
      rfl

end SqlRender
