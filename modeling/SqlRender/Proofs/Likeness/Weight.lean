import SqlRender.Proofs.Likeness.Tree
import SqlRender.Proofs.Render.Spacing

/-!
# Drafts that write more

How much a draft writes is told by its weight: the characters of fixed texts, and one for each
value, however long its placeholder is. Composition keeps the order of weights, so to weigh no less
is a likeness. A draft that writes more at one node writes more altogether, unless it writes less at
another one.
-/

namespace SqlRender

namespace Segment

/-- The number of characters in fixed texts, and of values. -/
def weight (segments : List Segment) : Nat :=
  textLength segments + (values segments).length

variable {xs ys : List Segment}

@[simp] theorem weight_nil : weight [] = 0 := rfl

@[simp] theorem weight_text (s : String) (xs : List Segment) :
    weight (.text s :: xs) = s.length + weight xs := by
  rw [weight, weight, textLength, values]
  omega

@[simp] theorem weight_value (v : Value) (xs : List Segment) :
    weight (.value v :: xs) = weight xs + 1 := by
  rw [weight, weight, textLength, values, List.length_cons]
  omega

@[simp] theorem weight_append (xs ys : List Segment) :
    weight (xs ++ ys) = weight xs + weight ys := by
  rw [weight, weight, weight, textLength_append, values_append, List.length_append]
  omega

/-- What is blank weighs nothing, and nothing else does. -/
theorem weight_eq_zero : weight xs = 0 ↔ areBlank xs = true := by
  induction xs with
  | nil => simp [areBlank]
  | cons x xs ih =>
      cases x with
      | text s =>
          rw [weight_text, Nat.add_eq_zero_iff, ih, areBlank, areBlank, List.all_cons,
            Bool.and_eq_true, isBlank, String.isEmpty_iff, String.length_eq_zero_iff]
      | value v => simp [areBlank, isBlank]

/-- Segments that are written alike and have the same values weigh the same. -/
theorem weight_eq_of_write {placeholder : Int → String} {bound : Nat}
    (text : write placeholder bound xs = write placeholder bound ys)
    (same : values xs = values ys) : weight xs = weight ys := by
  have hlength := congrArg String.length text
  rw [length_write, length_write, same] at hlength
  rw [weight, weight, same]
  omega

theorem areBlank_of_weight_le (h : weight xs ≤ weight ys) (blank : areBlank ys = true) :
    areBlank xs = true := by
  rw [← weight_eq_zero] at blank ⊢
  omega

/-- Heavier items are heavier when they are joined, also if they go after something. -/
theorem weight_joined_le (separator : String) {xss yss : List (List Segment)}
    (h : List.Forall₂ (fun xs ys => weight xs ≤ weight ys) xss yss) {first first' : Bool}
    (later : first' = true → first = true) :
    weight (joined separator first xss) ≤ weight (joined separator first' yss) := by
  induction h generalizing first first' with
  | nil => exact Nat.le_refl _
  | @cons xs ys xss yss hle _ ih =>
      rw [joined, joined]
      by_cases hys : areBlank ys = true
      · rw [if_pos hys, if_pos (areBlank_of_weight_le hle hys)]
        exact ih later
      · have hseparator : weight (if first = true then [] else [Segment.text separator]) ≤
            weight (if first' = true then [] else [Segment.text separator]) := by
          cases first <;> cases first' <;> simp_all
        rw [if_neg hys]
        by_cases hxs : areBlank xs = true
        · have hrest := @ih first false (by simp)
          rw [if_pos hxs, weight_append, weight_append]
          omega
        · have hrest := @ih false false id
          rw [if_neg hxs, weight_append, weight_append, weight_append, weight_append]
          omega

end Segment

namespace Draft

/-- How much a draft writes. -/
def weight (d : Draft) : Nat :=
  Segment.weight d.segments

@[simp] theorem weight_text (s : String) : weight (.text s) = s.length := by
  rw [weight, segments, Segment.weight_text, Segment.weight_nil, Nat.add_zero]

/-- A warning has no weight. -/
@[simp] theorem weight_warn_seq (w : Warning) (d : Draft) :
    weight (.seq [.warn w, d]) = d.weight := by
  rw [weight, segments, segmentLists, segmentLists, segmentLists, segments, List.flatten_cons,
    List.flatten_cons, List.flatten_nil, List.append_nil]
  rfl

/-- A phrase with text weighs what its parts add to it. -/
theorem weight_phrase_append {ds : List Draft} (h : ds.all isBlank = false) (es : List Draft) :
    weight (.phrase (ds ++ es)) = weight (.phrase ds) + Segment.weight (spaced es) := by
  rw [weight, segments_phrase_append h, Segment.weight_append]
  rfl

/-- Parts add nothing if they have no text, and only then. -/
theorem weight_spaced_eq_zero {ds : List Draft} :
    Segment.weight (spaced ds) = 0 ↔ ds.all isBlank = true := by
  rw [Segment.weight_eq_zero, spaced, Segment.areBlank_joined, all_isBlank]

theorem weight_segmentLists {ds es : List Draft}
    (h : List.Forall₂ (fun d e => weight d ≤ weight e) ds es) :
    List.Forall₂ (fun xs ys => Segment.weight xs ≤ Segment.weight ys) (segmentLists ds)
      (segmentLists es) := by
  induction h with
  | nil => exact .nil
  | cons hle _ ih => exact .cons hle ih

end Draft

/-- Drafts of which the second writes no less than the first. -/
def Likeness.heavier : Likeness where
  text := Eq
  draft d e := d.weight ≤ e.weight
  plain _ := rfl
  of_text h := h ▸ Nat.le_refl _
  of_warn _ := Nat.le_refl _
  of_fail _ := Nat.le_refl _
  of_seq {ds es} h := by
    rw [Draft.weight, Draft.weight, Draft.segments, Draft.segments]
    induction h with
    | nil => exact Nat.le_refl _
    | cons hle _ ih =>
        rw [Draft.segmentLists, Draft.segmentLists, List.flatten_cons, List.flatten_cons,
          Segment.weight_append, Segment.weight_append]
        exact Nat.add_le_add hle ih
  of_join := by
    intro s t ds es hseparator h
    have hst : s.chunk = t.chunk := by
      cases hseparator with
      | text htext => rw [htext]
      | stray typeName => rfl
    rw [Draft.weight, Draft.weight, Draft.segments, Draft.segments, hst]
    exact Segment.weight_joined_le _ (Draft.weight_segmentLists h) id
  of_clause := by
    intro s t d e hst h
    subst hst
    rw [Draft.weight, Draft.weight, Draft.segments, Draft.segments]
    by_cases he : Segment.areBlank e.segments = true
    · rw [if_pos he, if_pos (Segment.areBlank_of_weight_le h he)]
    · rw [if_neg he]
      split
      · exact Nat.zero_le _
      · rw [Segment.weight_text, Segment.weight_text]
        exact Nat.add_le_add_left h _

namespace Likeness

/-- The words of a dialect weigh what they weigh. -/
theorem heavier_fits (g : Grammar) : heavier.fits g where
  primaryKey := Nat.le_refl _
  typeName _ := rfl
  modifyVerb := rfl
  typeKeyword _ := rfl

/-- The labels of a node weigh what they weigh. -/
theorem heavier_labels (g : Grammar) {ε : Type} (f f' : ε → Piece) (n : Node ε) :
    heavier.labels g {} f f' n :=
  labels_nothing (fun _ => rfl) (fun _ => Nat.le_refl _) (fun _ _ => Nat.le_refl _) n

end Likeness

end SqlRender
