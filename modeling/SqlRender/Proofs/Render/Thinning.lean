import SqlRender.Proofs.Likeness.Keeping

/-!
# Leaving out what has no text

A part of a phrase or an item of a list that has no text may be left out: what is rendered stays
the same, and so do the values (`Draft.Thins.phrase`, `Draft.Keeps.exists_render`). With the last
item goes the clause that the list is in, keyword and all. Warnings are not kept, since a part
without text may well have some.
-/

namespace SqlRender

namespace Draft

/-- The second list is the first without some drafts that have no text, and with others that keep
the text in place of the rest. -/
inductive Thins : List Draft → List Draft → Prop where
  | nil : Thins [] []
  | keep {d e : Draft} {ds es : List Draft} : Keeps d e → Thins ds es → Thins (d :: ds) (e :: es)
  | drop {d : Draft} {ds es : List Draft} : d.isBlank = true → Thins ds es → Thins (d :: ds) es

namespace Thins

variable {ds es ds' es' : List Draft}

theorem refl (ds : List Draft) : Thins ds ds := by
  induction ds with
  | nil => exact .nil
  | cons d ds ih => exact .keep (.refl d) ih

theorem append (first : Thins ds es) (second : Thins ds' es') : Thins (ds ++ ds') (es ++ es') := by
  induction first with
  | nil => exact second
  | keep hkeeps _ ih => exact .keep hkeeps ih
  | drop hblank _ ih => exact .drop hblank ih

/-- If nothing is left, nothing had text. -/
theorem all_isBlank (h : Thins ds []) : ds.all isBlank = true := by
  -- the induction is on the relation, whose second list must be a variable for it
  generalize hes : ([] : List Draft) = es at h
  induction h with
  | nil => rfl
  | keep _ _ _ => cases hes
  | drop hblank _ ih => rw [List.all_cons, hblank, ih hes, Bool.and_self]

/-- What is left is as sound as before, and joined to the same. -/
theorem joined (h : Thins ds es) (sound : allSound ds = true) (separator : String)
    (first : Bool) :
    allSound es = true ∧
      Segment.shown (Segment.joined separator first (segmentLists es)) =
        Segment.shown (Segment.joined separator first (segmentLists ds)) := by
  -- whether a draft is the first to have text depends on those before, hence `first` is general
  induction h generalizing first with
  | nil => exact ⟨rfl, rfl⟩
  | @keep d e ds es hkeeps _ ih =>
      rw [allSound, Bool.and_eq_true] at sound
      obtain ⟨hsound, hshown⟩ := hkeeps sound.1
      have hblank : Segment.areBlank e.segments = Segment.areBlank d.segments :=
        Segment.areBlank_congr hshown
      refine ⟨by rw [allSound, hsound, (ih sound.2 first).1, Bool.and_self], ?_⟩
      rw [segmentLists, segmentLists, Segment.joined, Segment.joined, hblank]
      split
      · exact (ih sound.2 first).2
      · simp only [Segment.shown_append, hshown, (ih sound.2 false).2]
  | @drop d ds es hblank _ ih =>
      rw [allSound, Bool.and_eq_true] at sound
      have hskip : Segment.areBlank d.segments = true := hblank
      rw [segmentLists, Segment.joined, if_pos hskip]
      exact ih sound.2 first

/-- A list keeps its text if what has none is left out of it. -/
theorem join (separator : String) (h : Thins ds es) :
    Keeps (.join (.text separator) ds) (.join (.text separator) es) := by
  intro sound
  rw [isSound, Bool.and_eq_true] at sound
  obtain ⟨hsound, hshown⟩ := h.joined sound.1 separator true
  exact ⟨by rw [isSound, hsound]; rfl, hshown⟩

theorem phrase (h : Thins ds es) : Keeps (.phrase ds) (.phrase es) :=
  h.join " "

/-- A clause goes with its items. -/
theorem listClause (keyword : String) (h : Thins ds es) :
    Thins (listClause keyword ds) (listClause keyword es) := by
  cases es with
  | nil =>
      cases ds with
      | nil => exact .nil
      | cons d ds =>
          refine .drop ?_ .nil
          rw [isBlank_clause, isBlank_join]
          exact h.all_isBlank
  | cons e es =>
      cases ds with
      | nil => cases h
      | cons d ds => exact .keep (Likeness.keeping.of_clause rfl (h.join ", ")) .nil

end Thins

open Rendering

variable {placeholder : Int → String}

/-- A draft that keeps the text of another renders to that text and binds the same values. -/
theorem Keeps.exists_render (visible : ∀ n : Nat, placeholder (n + 1) ≠ "") {d e : Draft}
    (h : Keeps d e) {s u : Serializer} {text : String}
    (hd : render (d.run placeholder) s = .ok text u) :
    ∃ u', render (e.run placeholder) s = .ok text u' ∧ u'.binds = u.binds := by
  obtain ⟨v, hrun, htext, -⟩ := render_eq_ok.1 hd
  obtain ⟨hsound, hshown⟩ := h (isSound_of_run visible d _ v hrun (Written.text_eq_ok.1 htext).1)
  obtain ⟨text', u', he, -, -, -⟩ :=
    Draft.exists_render visible (run_of_isSound visible e hsound) s
  obtain ⟨hdtext, -, hdbinds⟩ := render_spec (run_appends visible d) hd
  obtain ⟨hetext, -, hebinds⟩ := render_spec (run_appends visible e) he
  have hsame : text' = text := by
    rw [hetext, hdtext, ← Segment.write_shown, hshown, Segment.write_shown]
  refine ⟨u', by rw [he, hsame], ?_⟩
  rw [hebinds, hdbinds, ← Segment.values_shown, hshown, Segment.values_shown]

end Draft

end SqlRender
