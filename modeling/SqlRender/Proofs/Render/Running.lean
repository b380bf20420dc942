import SqlRender.Render.Draft

/-!
# Running a rendering

What is known of a rendering that ends well: how it splits at a bind, and what is left of the text
that was put aside by a capture. Proofs about drafts take a run apart with these and do not open the
monad again.
-/

namespace SqlRender

@[simp] theorem Serializer.sql_nil (binds : List Value) (warnings : List Warning) :
    Serializer.sql ⟨{}, binds, warnings⟩ = "" := rfl

/-- The text of what was written is the text of its chunks, unless a stray spoils it. -/
theorem Written.text_eq_ok {w : Written} {text : String} :
    w.text = .ok text ↔ w.stray = none ∧ text = String.join w.chunks := by
  unfold Written.text
  cases hs : w.stray with
  | none =>
      constructor
      · intro h
        cases h
        exact ⟨rfl, rfl⟩
      · rintro ⟨-, rfl⟩
        rfl
  | some stray => simp

namespace Rendering

theorem bind_eq_ok {α β : Type} {m : Rendering α} {k : α → Rendering β} {s u : Serializer}
    {b : β} : (m >>= k) s = .ok b u ↔ ∃ a t, m s = .ok a t ∧ k a t = .ok b u := by
  show EStateM.bind m k s = .ok b u ↔ _
  unfold EStateM.bind
  cases h : m s with
  | ok a t =>
      constructor
      · intro hk
        exact ⟨a, t, rfl, hk⟩
      · rintro ⟨a', t', heq, hk⟩
        cases heq
        exact hk
  | error fault t => simp

theorem pure_eq_ok {α : Type} {a b : α} {s t : Serializer} :
    (pure a : Rendering α) s = .ok b t ↔ a = b ∧ s = t := by
  show EStateM.Result.ok a s = .ok b t ↔ _
  simp

/-- Writing nothing leaves no chunk, and so no trace. -/
theorem write_eq_ok {text : String} {s t : Serializer} {u : Unit} :
    write text s = .ok u t ↔
      t = if text = "" then s
        else { s with written := { s.written with chunks := s.written.chunks ++ [text] } } := by
  unfold write
  simp only [String.isEmpty_iff, EStateM.Result.ok.injEq]
  exact ⟨fun h => h.2.symm, fun h => ⟨trivial, h.symm⟩⟩

/-- What is written is appended, and no value is bound. -/
theorem sql_of_write {text : String} {s t : Serializer} {u : Unit}
    (h : write text s = .ok u t) : t.sql = s.sql ++ text ∧ t.binds = s.binds := by
  rw [write_eq_ok] at h
  subst h
  by_cases htext : text = ""
  · simp [htext]
  · simp [htext, Serializer.sql]

theorem throw_ne_ok {α : Type} {fault : Fault} {a : α} {s t : Serializer} :
    (throw fault : Rendering α) s ≠ .ok a t := by
  intro h
  cases h

/-- A render that ends well ran its body on its own, gives the text of that run, and leaves what was
written before as it was. -/
theorem render_eq_ok {body : Rendering Unit} {s t : Serializer} {text : String} :
    render body s = .ok text t ↔
      ∃ u, body { s with written := {} } = .ok () u ∧ u.written.text = .ok text ∧
        t = { u with written := s.written } := by
  unfold render
  rw [bind_eq_ok]
  constructor
  · rintro ⟨w, u', hcapture, hk⟩
    unfold capture at hcapture
    split at hcapture
    · rename_i u hbody
      cases hcapture
      cases htext : u.written.text with
      | ok text' =>
          rw [htext] at hk
          cases hk
          exact ⟨u, hbody, htext, rfl⟩
      | error fault =>
          rw [htext] at hk
          exact absurd hk throw_ne_ok
    · cases hcapture
  · rintro ⟨u, hbody, htext, rfl⟩
    refine ⟨u.written, { u with written := s.written }, ?_, ?_⟩
    · unfold capture
      rw [hbody]
    · rw [htext]
      rfl

end Rendering

end SqlRender
