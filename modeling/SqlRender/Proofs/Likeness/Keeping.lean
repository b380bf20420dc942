import SqlRender.Proofs.Likeness.Tree
import SqlRender.Proofs.Render.Success

/-!
# Drafts that keep the text

A draft keeps the text of another if, whenever that other can be carried out, it can be as well and
writes the same. Nothing is asked of drafts that fail, so that it does not matter which fault it is
that a failing draft ends in. This is a likeness: in a tree, a part may be replaced by one that
keeps its text.

What is compared are the segments without the blank ones. Blank segments show nowhere, neither in
the text nor in the choice of what is left out for want of text.
-/

namespace SqlRender

namespace Segment

/-- The segments that have text. -/
def shown (segments : List Segment) : List Segment :=
  segments.filter fun x => !x.isBlank

theorem shown_append (xs ys : List Segment) : shown (xs ++ ys) = shown xs ++ shown ys :=
  List.filter_append xs ys

theorem shown_shown (xs : List Segment) : shown (shown xs) = shown xs := by
  rw [shown, shown, List.filter_filter]
  simp only [Bool.and_self]

theorem shown_flatten (xss : List (List Segment)) : shown xss.flatten = (xss.map shown).flatten :=
  List.filter_flatten

theorem areBlank_iff_shown (xs : List Segment) : areBlank xs = true ↔ shown xs = [] := by
  simp only [areBlank, shown, List.all_eq_true, List.filter_eq_nil_iff, Bool.not_eq_true',
    Bool.not_eq_false]

theorem areBlank_congr {xs ys : List Segment} (h : shown xs = shown ys) :
    areBlank xs = areBlank ys := by
  rw [Bool.eq_iff_iff, areBlank_iff_shown, areBlank_iff_shown, h]

/-- What is blank is written as nothing. -/
theorem write_shown (placeholder : Int → String) (bound : Nat) (xs : List Segment) :
    write placeholder bound (shown xs) = write placeholder bound xs := by
  induction xs generalizing bound with
  | nil => rfl
  | cons x xs ih =>
      cases x with
      | value v => exact congrArg (placeholder (bound + 1) ++ ·) (ih (bound + 1))
      | text s =>
          rw [write, ← ih bound, shown, List.filter_cons]
          by_cases h : s = ""
          · simp [h, isBlank, shown]
          · simp [h, isBlank, shown, write]

/-- What is blank binds nothing. -/
theorem values_shown (xs : List Segment) : values (shown xs) = values xs := by
  induction xs with
  | nil => rfl
  | cons x xs ih =>
      cases x with
      | value v => exact congrArg (v :: ·) ih
      | text s =>
          rw [values, ← ih, shown, List.filter_cons]
          split <;> rfl

/-- Blank segments make no difference to what is joined. -/
theorem shown_joined (separator : String) (first : Bool) (items : List (List Segment)) :
    shown (joined separator first items) = shown (joined separator first (items.map shown)) := by
  induction items generalizing first with
  | nil => rfl
  | cons item items ih =>
      rw [List.map_cons, joined, joined, areBlank_congr (shown_shown item)]
      split
      · exact ih first
      · simp only [shown_append, shown_shown, ih false]

end Segment

namespace Draft

/-- Whether the second draft is sound if the first is, and then writes the same. -/
def Keeps (d e : Draft) : Prop :=
  d.isSound = true → e.isSound = true ∧ Segment.shown e.segments = Segment.shown d.segments

namespace Keeps

theorem refl (d : Draft) : Keeps d d :=
  fun sound => ⟨sound, rfl⟩

/-- What fails need not be kept. -/
theorem of_fail (fault : Fault) (d : Draft) : Keeps (.fail fault) d := by
  intro sound
  cases sound

section Lists

variable {ds es : List Draft}

theorem all (h : List.Forall₂ Keeps ds es) (sound : allSound ds = true) :
    allSound es = true ∧
      (segmentLists es).map Segment.shown = (segmentLists ds).map Segment.shown := by
  induction h with
  | nil => exact ⟨rfl, rfl⟩
  | cons hd _ ih =>
      rw [allSound, Bool.and_eq_true] at sound
      obtain ⟨hsound, hshown⟩ := hd sound.1
      obtain ⟨hrest, hmore⟩ := ih sound.2
      refine ⟨by rw [allSound, hsound, hrest]; rfl, ?_⟩
      rw [segmentLists, segmentLists, List.map_cons, List.map_cons, hshown, hmore]

/-- Whether items are separated is told from which of them have text. -/
theorem isSeparated_eq
    (h : (segmentLists es).map Segment.shown = (segmentLists ds).map Segment.shown) (first : Bool) :
    isSeparated first es = isSeparated first ds := by
  induction ds generalizing es first with
  | nil =>
      cases es with
      | nil => rfl
      | cons e es => cases h
  | cons d ds ih =>
      cases es with
      | nil => cases h
      | cons e es =>
          rw [segmentLists, segmentLists, List.map_cons, List.map_cons, List.cons.injEq] at h
          have hblank : e.isBlank = d.isBlank := Segment.areBlank_congr h.1
          rw [isSeparated, isSeparated, hblank, ih h.2 first, ih h.2 false]

end Lists

end Keeps

end Draft

/-- Drafts of which the second keeps the text of the first, with the same words. -/
def Likeness.keeping : Likeness where
  text := Eq
  draft := Draft.Keeps
  plain _ := rfl
  of_text h := h ▸ .refl _
  of_warn w := .refl (.warn w)
  of_fail f := .refl (.fail f)
  of_seq h := by
    intro sound
    obtain ⟨hsound, hshown⟩ := Draft.Keeps.all h sound
    refine ⟨hsound, ?_⟩
    rw [Draft.segments, Draft.segments, Segment.shown_flatten, Segment.shown_flatten, hshown]
  of_join := by
    intro s t ds es hseparator h sound
    have hst : s = t := by
      cases hseparator with
      | text htext => rw [htext]
      | stray typeName => rfl
    subst hst
    rw [Draft.isSound, Bool.and_eq_true] at sound
    obtain ⟨hsound, hshown⟩ := Draft.Keeps.all h sound.1
    constructor
    · rw [Draft.isSound, hsound, Draft.Keeps.isSeparated_eq hshown true]
      exact sound.2
    · rw [Draft.segments, Draft.segments, Segment.shown_joined, hshown, ← Segment.shown_joined]
  of_clause := by
    intro s t d e hst h sound
    subst hst
    obtain ⟨hsound, hshown⟩ := h sound
    refine ⟨hsound, ?_⟩
    rw [Draft.segments, Draft.segments, Segment.areBlank_congr hshown]
    split
    · rfl
    · show Segment.shown ([.text (s ++ " ")] ++ e.segments) =
        Segment.shown ([.text (s ++ " ")] ++ d.segments)
      rw [Segment.shown_append, Segment.shown_append, hshown]

namespace Likeness

variable {g : Grammar}

end Likeness

end SqlRender
