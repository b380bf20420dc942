import SqlRender.Expr.Basic
import SqlRender.Proofs.Render.Running

/-!
# Rendering behind what is written

A rendering looks at the values that were bound before, since it numbers its own after them, and
never at what was written before. So writing something in front of a rendering changes nothing but
what stands in front of it: a draft that runs behind `w` does what it does on its own, with the same
result or the same fault, and leaves `w` followed by what it writes on its own.
-/

namespace SqlRender

/-- What is written by `w` and then by `v`. A stray of `v` comes after the chunks of `w`. -/
def Written.append (w v : Written) : Written where
  chunks := w.chunks ++ v.chunks
  stray := w.stray.or (v.stray.map fun s => { s with position := w.chunks.length + s.position })

namespace Written

@[simp] theorem append_nothing (w : Written) : w.append {} = w := by
  simp [append]

theorem append_chunk (w v : Written) (text : String) :
    w.append { v with chunks := v.chunks ++ [text] } =
      { w.append v with chunks := (w.append v).chunks ++ [text] } := by
  simp [append]

theorem append_stray (w v : Written) (typeName : String) :
    w.append { v with stray := v.stray.or (some ⟨v.chunks.length, typeName⟩) } =
      { w.append v with
        stray := (w.append v).stray.or (some ⟨(w.append v).chunks.length, typeName⟩) } := by
  cases hw : w.stray <;> cases hv : v.stray <;> simp [append, hw, hv]

theorem append_stray_eq_none {w v : Written} :
    (w.append v).stray = none ↔ w.stray = none ∧ v.stray = none := by
  simp [append]

/-- The text of both together is there if each has one. -/
theorem text_append_eq_ok {w v : Written} {text : String} :
    (w.append v).text = .ok text ↔
      ∃ before after, w.text = .ok before ∧ v.text = .ok after ∧ text = before ++ after := by
  simp only [text_eq_ok, append_stray_eq_none]
  constructor
  · rintro ⟨⟨hw, hv⟩, rfl⟩
    exact ⟨_, _, ⟨hw, rfl⟩, ⟨hv, rfl⟩, by rw [append, String.join_append]⟩
  · rintro ⟨before, after, ⟨hw, rfl⟩, ⟨hv, rfl⟩, rfl⟩
    exact ⟨⟨hw, hv⟩, by rw [append, String.join_append]⟩

/-- Behind something without a stray there is the stray before it, if any, and all the chunks. -/
theorem text_append {w v : Written} (h : v.stray = none) :
    (w.append v).text = { w with chunks := w.chunks ++ v.chunks }.text := by
  simp [append, text, h]

end Written

/-- A serializer with `w` written in front. -/
def Serializer.after (w : Written) (s : Serializer) : Serializer :=
  { s with written := w.append s.written }

/-- How a rendering ends with `w` written in front. -/
def Rendering.endsAfter {α : Type} (w : Written) :
    EStateM.Result Fault Serializer α → EStateM.Result Fault Serializer α
  | .ok a t => .ok a (t.after w)
  | .error fault t => .error fault (t.after w)

/-- A rendering that does not look at what was written before it. -/
def Rendering.IsLocal {α : Type} (m : Rendering α) : Prop :=
  ∀ (w : Written) (s : Serializer), m (s.after w) = endsAfter w (m s)

namespace Rendering.IsLocal

variable {α β : Type}

theorem pure (a : α) : IsLocal (Pure.pure a) := by
  intro w s
  rfl

theorem throw (fault : Fault) : IsLocal (α := α) (throw fault) := by
  intro w s
  rfl

theorem bind {m : Rendering α} {k : α → Rendering β} (hm : IsLocal m) (hk : ∀ a, IsLocal (k a)) :
    IsLocal (m >>= k) := by
  intro w s
  show EStateM.bind m k (s.after w) = endsAfter w (EStateM.bind m k s)
  unfold EStateM.bind
  rw [hm w s]
  cases m s with
  | ok a t => exact hk a w t
  | error fault t => rfl

theorem write (text : String) : IsLocal (write text) := by
  intro w s
  by_cases h : text.isEmpty
  · simp [Rendering.write, endsAfter, h]
  · simp [Rendering.write, endsAfter, h, Serializer.after, Written.append_chunk]

theorem writeStray (typeName : String) : IsLocal (writeStray typeName) := by
  intro w s
  simp only [Rendering.writeStray, endsAfter, Serializer.after, Written.append_stray]

theorem writeBind (placeholder : Int → String) (value : Value) :
    IsLocal (writeBind placeholder value) := by
  intro w s
  exact write (placeholder (s.binds.length + 1)) w { s with binds := s.binds ++ [value] }

theorem warn (warning : Warning) : IsLocal (warn warning) := by
  intro w s
  rfl

/-- Whatever runs with its text put aside starts with nothing written. -/
theorem capture (body : Rendering Unit) : IsLocal (capture body) := by
  intro w s
  have same : { s.after w with written := {} } = { s with written := {} } := rfl
  unfold Rendering.capture
  rw [same]
  cases body { s with written := {} } <;> rfl

theorem render (body : Rendering Unit) : IsLocal (render body) := by
  refine (capture body).bind fun written => ?_
  cases written.text with
  | ok text => exact pure text
  | error fault => exact throw fault

theorem separator (separator : Separator) : IsLocal separator.write := by
  cases separator with
  | text s => exact write s
  | stray typeName => exact writeStray typeName

/-- A rendering behind what was written is the rendering on its own. -/
theorem eq_endsAfter {m : Rendering α} (h : IsLocal m) (s : Serializer) :
    m s = endsAfter s.written (m { s with written := {} }) := by
  rw [← h, Serializer.after, Written.append_nothing]

/-- What was written before stays, and with it a stray. -/
theorem stray_eq_none {m : Rendering α} (h : IsLocal m) {a : α} {s t : Serializer}
    (hm : m s = .ok a t) (text : t.written.stray = none) : s.written.stray = none := by
  have hend := h.eq_endsAfter s
  rw [hm] at hend
  cases hown : m { s with written := {} } with
  | ok b u =>
      rw [hown] at hend
      cases hend
      exact (Written.append_stray_eq_none.1 text).1
  | error fault u =>
      rw [hown] at hend
      cases hend

end Rendering.IsLocal

open Rendering

namespace Draft

variable (placeholder : Int → String)

theorem runJoined_isLocal {separator : Rendering Unit} (hseparator : IsLocal separator)
    (first : Bool) (ds : List Draft) : IsLocal (runJoined placeholder separator first ds) := by
  induction ds generalizing first with
  | nil => exact .pure ()
  | cons d ds ih =>
      rw [runJoined]
      -- the items are rendered with their text put aside, so nothing need be known of them
      refine (IsLocal.render _).bind fun text => ?_
      split
      · exact ih first
      · cases first with
        | true => exact (IsLocal.write text).bind fun _ => ih false
        | false => exact hseparator.bind fun _ => (IsLocal.write text).bind fun _ => ih false

mutual

/-- No draft looks at what was written before it. -/
theorem run_isLocal (d : Draft) : IsLocal (d.run placeholder) := by
  cases d with
  | text s => exact .write s
  | stray typeName => exact .writeStray typeName
  | bind value => exact .writeBind placeholder value
  | warn warning => exact .warn warning
  | fail fault => exact .throw fault
  | seq parts => exact runAll_isLocal parts
  | join separator items => exact runJoined_isLocal placeholder (.separator separator) true items
  | clause keyword body =>
      rw [run]
      refine (IsLocal.render _).bind fun text => ?_
      split
      · exact .pure ()
      · exact .write _

theorem runAll_isLocal (ds : List Draft) : IsLocal (runAll placeholder ds) := by
  cases ds with
  | nil => exact .pure ()
  | cons d ds => exact (run_isLocal d).bind fun _ => runAll_isLocal ds

end

end Draft

/-- Chunks of text may as well be put together before they are written. -/
theorem Rendering.write_join (w : Written) (s : Serializer) (h : s.written.stray = none) :
    ∃ u, write (String.join s.written.chunks) { s with written := w } =
        .ok () { s with written := u } ∧
      u.text = (w.append s.written).text := by
  rw [Written.text_append h]
  by_cases hjoin : String.join s.written.chunks = ""
  · refine ⟨w, ?_, ?_⟩
    · simp [write, hjoin]
    · simp [Written.text, hjoin]
  · refine ⟨{ w with chunks := w.chunks ++ [String.join s.written.chunks] }, ?_, ?_⟩
    · simp [write, hjoin]
    · simp [Written.text]

/-- No expression looks at what was written before it. -/
theorem Expr.render_isLocal (d : Dialect) (e : Expr) : IsLocal (e.render d) :=
  Draft.run_isLocal d.placeholder (e.draft d.toGrammar)

end SqlRender
