import SqlRender.Proofs.Render.Mute

/-!
# Spacing and length

What parts add to a phrase that has text already: a space before each that has text. The length of
what is written does not depend on the order of the parts, even though they are numbered as they
come (`Segment.length_write_comm`).
-/

namespace SqlRender

namespace Segment

variable {placeholder : Int → String}

/-- How many characters there are in fixed texts. -/
def textLength : List Segment → Nat
  | [] => 0
  | .text s :: rest => s.length + textLength rest
  | .value _ :: rest => textLength rest

/-- How many characters there are in so many placeholders. -/
def markLength (placeholder : Int → String) (bound : Nat) : Nat → Nat
  | 0 => 0
  | n + 1 => (placeholder (bound + 1)).length + markLength placeholder (bound + 1) n

theorem textLength_append (xs ys : List Segment) :
    textLength (xs ++ ys) = textLength xs + textLength ys := by
  induction xs with
  | nil => simp [textLength]
  | cons x xs ih =>
      cases x with
      | text s =>
          rw [List.cons_append, textLength, textLength, ih]
          omega
      | value v => exact ih

theorem length_write (bound : Nat) (xs : List Segment) :
    (write placeholder bound xs).length =
      textLength xs + markLength placeholder bound (values xs).length := by
  induction xs generalizing bound with
  | nil => rfl
  | cons x xs ih =>
      cases x with
      | text s =>
          rw [write, String.length_append, ih, textLength, values]
          omega
      | value v =>
          rw [write, String.length_append, ih, textLength, values, List.length_cons, markLength]
          omega

/-- Parts in either order have texts of the same length. -/
theorem length_write_comm (bound : Nat) (xs ys : List Segment) :
    (write placeholder bound (xs ++ ys)).length = (write placeholder bound (ys ++ xs)).length := by
  rw [length_write, length_write, textLength_append, textLength_append, values_append,
    values_append, List.length_append, List.length_append]
  rw [Nat.add_comm (textLength xs), Nat.add_comm (values xs).length]

theorem markLength_mono (bound : Nat) {m n : Nat} (h : m ≤ n) :
    markLength placeholder bound m ≤ markLength placeholder bound n := by
  induction m generalizing bound n with
  | zero => exact Nat.zero_le _
  | succ m ih =>
      obtain ⟨n, rfl⟩ := Nat.exists_eq_add_of_lt h
      exact Nat.add_le_add_left (ih (bound + 1) (by omega)) _

/-- More segments in between make a text longer, by no less than the fixed texts among them. -/
theorem length_write_insert (placeholder : Int → String) (bound : Nat)
    (xs ys zs : List Segment) :
    (write placeholder bound (xs ++ zs)).length + textLength ys ≤
      (write placeholder bound (xs ++ ys ++ zs)).length := by
  have hmarks : markLength placeholder bound (values (xs ++ zs)).length ≤
      markLength placeholder bound (values (xs ++ ys ++ zs)).length := by
    refine markLength_mono bound ?_
    simp only [values_append, List.length_append]
    omega
  rw [length_write, length_write, textLength_append, textLength_append, textLength_append]
  omega

/-- An item with text is written as it is, after a separator if there is text before it. -/
theorem joined_single (separator : String) (first : Bool) {item : List Segment}
    (h : areBlank item = false) :
    joined separator first [item] = (if first then [] else [.text separator]) ++ item := by
  rw [joined, if_neg (ne_true_of_eq_false h), joined, List.append_nil]

/-- Items with text before them begin with a separator, if they have text. -/
theorem joined_false {separator : String} {items : List (List Segment)}
    (h : items.all areBlank = false) :
    joined separator false items = .text separator :: joined separator true items := by
  induction items with
  | nil => cases h
  | cons item items ih =>
      rw [joined, joined]
      split
      · rename_i hblank
        rw [List.all_cons, hblank, Bool.true_and] at h
        exact ih h
      · rfl

theorem joined_eq_nil {separator : String} {first : Bool} {items : List (List Segment)}
    (h : items.all areBlank = true) : joined separator first items = [] := by
  induction items with
  | nil => rfl
  | cons item items ih =>
      rw [List.all_cons, Bool.and_eq_true] at h
      rw [joined, if_pos h.1]
      exact ih h.2

end Segment

namespace Draft

/-- What parts add to a phrase that has text already. -/
def spaced (ds : List Draft) : List Segment :=
  Segment.joined " " false (segmentLists ds)

@[simp] theorem spaced_nil : spaced [] = [] := rfl

theorem spaced_append (ds es : List Draft) : spaced (ds ++ es) = spaced ds ++ spaced es := by
  rw [spaced, segmentLists_eq, List.map_append, Segment.joined_append, ← segmentLists_eq,
    ← segmentLists_eq]
  rfl

theorem spaced_eq_nil {ds : List Draft} (h : ds.all isBlank = true) : spaced ds = [] :=
  Segment.joined_eq_nil (by rw [all_isBlank, h])

theorem spaced_cons {d : Draft} (h : d.isBlank = false) (ds : List Draft) :
    spaced (d :: ds) = .text " " :: (d.segments ++ spaced ds) := by
  have full : ¬ Segment.areBlank d.segments = true := ne_true_of_eq_false h
  rw [spaced, segmentLists, Segment.joined, if_neg full]
  rfl

/-- A phrase inside a phrase adds what its parts add. -/
theorem spaced_phrase (ds : List Draft) : spaced [.phrase ds] = spaced ds := by
  cases hblank : ds.all isBlank with
  | true =>
      have hphrase : [phrase ds].all isBlank = true := by
        rw [List.all_cons, phrase, isBlank_join, hblank]
        rfl
      rw [spaced_eq_nil hphrase, spaced_eq_nil hblank]
  | false =>
      have hphrase : (phrase ds).isBlank = false := by
        rw [phrase, isBlank_join, hblank]
      rw [spaced_cons hphrase, spaced_nil, List.append_nil, spaced,
        Segment.joined_false (by rw [all_isBlank, hblank])]
      rfl

theorem spaced_words {v w : String} (hv : v ≠ "") (hw : w ≠ "") :
    spaced [.text v, .text w] = [.text " ", .text v, .text " ", .text w] := by
  have full {s : String} (h : s ≠ "") : isBlank (.text s) = false := by
    rw [isBlank_text]
    simpa using h
  rw [spaced_cons (full hv), spaced_cons (full hw)]
  rfl

theorem spaced_clause (keyword : String) {d : Draft} (h : d.isBlank = false) :
    spaced [.clause keyword d] = .text " " :: .text (keyword ++ " ") :: d.segments := by
  have full : ¬ Segment.areBlank d.segments = true := ne_true_of_eq_false h
  rw [spaced_cons (by rw [isBlank_clause, h]), segments, if_neg full]
  exact congrArg (Segment.text " " :: ·) (List.append_nil _)

/-- A phrase with text is one part after the other. -/
theorem segments_phrase_append {ds : List Draft} (h : ds.all isBlank = false) (es : List Draft) :
    segments (.phrase (ds ++ es)) = segments (.phrase ds) ++ spaced es := by
  rw [phrase, phrase, segments, segments, segmentLists_eq, segmentLists_eq, List.map_append,
    Segment.joined_append, ← segmentLists_eq, ← segmentLists_eq, all_isBlank, h]
  rfl

theorem segments_join_single (separator : Separator) {d : Draft} (h : d.isBlank = false) :
    segments (.join separator [d]) = d.segments := by
  rw [segments, segmentLists, segmentLists, Segment.joined_single _ _ h]
  rfl

theorem segments_group_single {d : Draft} (h : d.isBlank = false) :
    segments (.group [d]) = .text "(" :: (d.segments ++ [.text ")"]) := by
  rw [group, segments, segmentLists, segmentLists, segmentLists, segmentLists,
    segments_join_single _ h]
  rfl

end Draft

end SqlRender
