import SqlRender.Proofs.Render.Frame
import SqlRender.Proofs.Render.Segments

/-!
# Drafts that leave no trace

A draft is mute if running it leaves no trace: no text, no warning and no fault. Since everything in
a draft is run, whatever becomes of its text, a run that ends well without a warning shows that
there is nothing in the draft that warns or fails (`Draft.run_silent`). So a part of such a draft is
mute as soon as it has no text.
-/

namespace SqlRender

namespace Segment

theorem areBlank_append (xs ys : List Segment) :
    areBlank (xs ++ ys) = (areBlank xs && areBlank ys) :=
  List.all_append

theorem areBlank_flatten (xss : List (List Segment)) :
    areBlank xss.flatten = xss.all areBlank := by
  induction xss with
  | nil => rfl
  | cons xs xss ih => rw [List.flatten_cons, areBlank_append, ih, List.all_cons]

/-- What is joined is blank if all items are: a separator stands only next to an item. -/
theorem areBlank_joined (separator : String) (first : Bool) (items : List (List Segment)) :
    areBlank (joined separator first items) = items.all areBlank := by
  induction items generalizing first with
  | nil => rfl
  | cons item items ih =>
      rw [joined, List.all_cons]
      by_cases h : areBlank item
      · rw [if_pos h, ih, h, Bool.true_and]
      · rw [if_neg h, areBlank_append, areBlank_append, eq_false_of_ne_true h, Bool.and_false]
        rfl

end Segment

theorem Rendering.warnings_of_write {text : String} {s t : Serializer} {u : Unit}
    (h : write text s = .ok u t) : t.warnings = s.warnings := by
  rw [write_eq_ok] at h
  subst h
  split <;> rfl

theorem Separator.warnings_of_write {separator : Separator} {s t : Serializer} {u : Unit}
    (h : separator.write s = .ok u t) : t.warnings = s.warnings := by
  cases separator with
  | text text => exact Rendering.warnings_of_write h
  | stray typeName =>
      cases h
      rfl

namespace Draft

/-! ## Blank and silent drafts -/

/-- Whether a draft writes nothing. -/
def isBlank (d : Draft) : Bool :=
  Segment.areBlank d.segments

theorem all_isBlank (ds : List Draft) :
    (segmentLists ds).all Segment.areBlank = ds.all isBlank := by
  rw [segmentLists_eq, List.all_map]
  rfl

theorem isBlank_text (s : String) : isBlank (.text s) = s.isEmpty := by
  simp [isBlank, segments, Segment.areBlank, Segment.isBlank]

theorem isBlank_seq (ds : List Draft) : isBlank (.seq ds) = ds.all isBlank := by
  rw [isBlank, segments, Segment.areBlank_flatten, all_isBlank]

theorem isBlank_join (separator : Separator) (ds : List Draft) :
    isBlank (.join separator ds) = ds.all isBlank := by
  rw [isBlank, segments, Segment.areBlank_joined, all_isBlank]

theorem isBlank_clause (keyword : String) (d : Draft) :
    isBlank (.clause keyword d) = d.isBlank := by
  rw [isBlank, segments, isBlank]
  split
  · rename_i h
    rw [h]
    rfl
  · rename_i h
    rw [eq_false_of_ne_true h]
    simp [Segment.areBlank, Segment.isBlank]

theorem isBlank_group (ds : List Draft) : isBlank (.group ds) = false := by
  rw [group, isBlank_seq, List.all_cons, isBlank_text]
  rfl

mutual

/-- Whether there is nothing in a draft that warns, fails or spoils the text. -/
def isSilent : Draft → Bool
  | .text _ | .bind _ => true
  | .stray _ | .warn _ | .fail _ => false
  | .seq parts => allSilent parts
  | .join _ items => allSilent items
  | .clause _ body => isSilent body

/-- Whether several drafts are silent. -/
def allSilent : List Draft → Bool
  | [] => true
  | d :: ds => isSilent d && allSilent ds

end

theorem allSilent_eq (ds : List Draft) : allSilent ds = ds.all isSilent := by
  induction ds with
  | nil => rfl
  | cons d ds ih => rw [allSilent, ih, List.all_cons]

/-! ## Runs without warnings -/

section Runs

open Rendering

variable {placeholder : Int → String}

/-- A render that warns of nothing has run its body without a warning, and has given its text. -/
theorem silent_of_render {d : Draft} {s t : Serializer} {text : String}
    (body : ∀ u v, d.run placeholder u = .ok () v → v.written.stray = none →
      u.warnings <+: v.warnings ∧ (v.warnings = u.warnings → d.isSilent = true))
    (h : render (d.run placeholder) s = .ok text t) :
    s.warnings <+: t.warnings ∧ (t.warnings = s.warnings → d.isSilent = true) := by
  obtain ⟨u, hu, htext, rfl⟩ := render_eq_ok.1 h
  exact body { s with written := {} } u hu (Written.text_eq_ok.1 htext).1

/-- Two runs in turn that warn of nothing between them each warn of nothing. -/
theorem silent_of_steps {ws ws' ws'' : List Warning} {first rest : Bool}
    (hfirst : ws <+: ws' ∧ (ws' = ws → first = true))
    (hrest : ws' <+: ws'' ∧ (ws'' = ws' → rest = true)) :
    ws <+: ws'' ∧ (ws'' = ws → (first && rest) = true) := by
  refine ⟨hfirst.1.trans hrest.1, ?_⟩
  rintro rfl
  have hsame : ws' = ws'' := hrest.1.eq_of_length_le hfirst.1.length_le
  rw [hfirst.2 hsame, hrest.2 hsame.symm]
  rfl

mutual

/-- A run that ends well with text adds to the warnings. If it adds none, there is nothing in its
draft that warns or fails. -/
theorem run_silent (d : Draft) (s t : Serializer) (h : d.run placeholder s = .ok () t)
    (text : t.written.stray = none) :
    s.warnings <+: t.warnings ∧ (t.warnings = s.warnings → d.isSilent = true) := by
  cases d with
  | text s' =>
      rw [warnings_of_write h]
      exact ⟨List.prefix_rfl, fun _ => rfl⟩
  | stray typeName =>
      cases h
      simp at text
  | bind value =>
      rw [warnings_of_write h]
      exact ⟨List.prefix_rfl, fun _ => rfl⟩
  | warn warning =>
      cases h
      exact ⟨List.prefix_append _ _, fun h => absurd h (by simp)⟩
  | fail fault => exact absurd h throw_ne_ok
  | seq parts => exact runAll_silent parts s t h text
  | join separator items => exact runJoined_silent separator true items s t h text
  | clause keyword body =>
      rw [run, bind_eq_ok] at h
      obtain ⟨shown, u, hrender, hwrite⟩ := h
      -- the body has been rendered by then, whether or not its text is written
      have hsame : t.warnings = u.warnings := by
        split at hwrite
        · cases hwrite
          rfl
        · exact warnings_of_write hwrite
      rw [hsame, isSilent]
      exact silent_of_render (run_silent body) hrender

theorem runAll_silent (ds : List Draft) (s t : Serializer)
    (h : runAll placeholder ds s = .ok () t) (text : t.written.stray = none) :
    s.warnings <+: t.warnings ∧ (t.warnings = s.warnings → allSilent ds = true) := by
  cases ds with
  | nil =>
      cases h
      exact ⟨List.prefix_rfl, fun _ => rfl⟩
  | cons d ds =>
      rw [runAll, bind_eq_ok] at h
      obtain ⟨⟨⟩, u, hfirst, hrest⟩ := h
      have htext := (runAll_isLocal placeholder ds).stray_eq_none hrest text
      exact silent_of_steps (run_silent d s u hfirst htext) (runAll_silent ds u t hrest text)

theorem runJoined_silent (separator : Separator) (first : Bool) (ds : List Draft)
    (s t : Serializer) (h : runJoined placeholder separator.write first ds s = .ok () t)
    (text : t.written.stray = none) :
    s.warnings <+: t.warnings ∧ (t.warnings = s.warnings → allSilent ds = true) := by
  cases ds with
  | nil =>
      cases h
      exact ⟨List.prefix_rfl, fun _ => rfl⟩
  | cons d ds =>
      rw [runJoined, bind_eq_ok] at h
      obtain ⟨shown, u, hrender, hrest⟩ := h
      have hitem := silent_of_render (run_silent d) hrender
      -- what is written of the item does not matter, nor whether a separator goes before it
      obtain ⟨v, first', hsame, hlater⟩ : ∃ v first', v.warnings = u.warnings ∧
          runJoined placeholder separator.write first' ds v = .ok () t := by
        split at hrest
        · exact ⟨u, first, rfl, hrest⟩
        · cases first with
          | true =>
              obtain ⟨⟨⟩, v, hwrite, hlater⟩ := bind_eq_ok.1 hrest
              exact ⟨v, false, warnings_of_write hwrite, hlater⟩
          | false =>
              obtain ⟨⟨⟩, w, hseparator, hwritten⟩ := bind_eq_ok.1 hrest
              obtain ⟨⟨⟩, v, hwrite, hlater⟩ := bind_eq_ok.1 hwritten
              exact ⟨v, false, (warnings_of_write hwrite).trans
                (Separator.warnings_of_write hseparator), hlater⟩
      have hitems := runJoined_silent separator first' ds v t hlater text
      rw [hsame] at hitems
      exact silent_of_steps hitem hitems

end

end Runs

/-! ## Mute drafts -/

/-- Whether a draft leaves no trace. -/
def isMute (d : Draft) : Bool :=
  d.isSilent && d.isBlank

theorem all_isMute (ds : List Draft) :
    ds.all isMute = (ds.all isSilent && ds.all isBlank) := by
  induction ds with
  | nil => rfl
  | cons d ds ih =>
      rw [List.all_cons, List.all_cons, List.all_cons, ih, isMute]
      cases d.isSilent <;> cases d.isBlank <;> simp

@[simp] theorem isMute_text (s : String) : isMute (.text s) = decide (s = "") := by
  rw [isMute, isBlank_text, isSilent, Bool.true_and, Bool.eq_iff_iff, String.isEmpty_iff,
    decide_eq_true_iff]

@[simp] theorem isMute_bind (v : Value) : isMute (.bind v) = false := by
  rw [isMute, Bool.and_eq_false_iff]
  exact .inr rfl

@[simp] theorem isMute_stray (typeName : String) : isMute (.stray typeName) = false := rfl

@[simp] theorem isMute_warn (w : Warning) : isMute (.warn w) = false := rfl

@[simp] theorem isMute_fail (fault : Fault) : isMute (.fail fault) = false := rfl

@[simp] theorem isMute_seq (ds : List Draft) : isMute (.seq ds) = ds.all isMute := by
  rw [isMute, isSilent, isBlank_seq, allSilent_eq, all_isMute]

@[simp] theorem isMute_join (separator : Separator) (ds : List Draft) :
    isMute (.join separator ds) = ds.all isMute := by
  rw [isMute, isSilent, isBlank_join, allSilent_eq, all_isMute]

@[simp] theorem isMute_clause (keyword : String) (d : Draft) :
    isMute (.clause keyword d) = d.isMute := by
  rw [isMute, isSilent, isBlank_clause, isMute]

@[simp] theorem isMute_phrase (ds : List Draft) : isMute (.phrase ds) = ds.all isMute :=
  isMute_join _ ds

@[simp] theorem isMute_group (ds : List Draft) : isMute (.group ds) = false := by
  simp [group]

/-- A part of a draft without text is mute if nothing in the draft warns or fails. -/
theorem isMute_of_isBlank {d : Draft} (silent : d.isSilent = true) (blank : d.isBlank = true) :
    d.isMute = true := by
  rw [isMute, silent, blank]
  rfl

end Draft

end SqlRender
