import SqlRender.Text.Search

/-!
# Cutting lists

Where a list is cut when more is appended to it. A cut at the first mark is made in the first part
that has one; a cut at the last mark, in the last.
-/

namespace SqlRender.Text

variable {α : Type} [BEq α] [LawfulBEq α] {mark : α}

theorem cut_cons_of_ne {x : α} (h : x ≠ mark) (xs : List α) :
    cut mark (x :: xs) = (x :: (cut mark xs).1, (cut mark xs).2) := by
  rw [cut, if_neg (by simpa using h)]

/-- A cut leaves in front of it what comes before the first mark. -/
theorem cut_fst [DecidableEq α] (xs : List α) :
    (cut mark xs).1 = xs.takeWhile (· ≠ mark) := by
  induction xs with
  | nil => rfl
  | cons x xs ih =>
      by_cases h : x = mark
      · rw [cut, if_pos (by simpa using h), List.takeWhile_cons_of_neg (by simpa using h)]
      · rw [cut_cons_of_ne h, ih, List.takeWhile_cons_of_pos (by simpa using h)]

/-- What has no mark is before the cut. -/
theorem cut_append_of_not_mem {xs : List α} (h : mark ∉ xs) (ys : List α) :
    cut mark (xs ++ ys) = (xs ++ (cut mark ys).1, (cut mark ys).2) := by
  induction xs with
  | nil => rfl
  | cons x xs ih =>
      rw [List.mem_cons, not_or] at h
      rw [List.cons_append, cut_cons_of_ne (Ne.symm h.1), ih h.2, List.cons_append]

/-- A list is what a cut makes of it, put together again. -/
theorem cut_cases (mark : α) (xs : List α) :
    mark ∉ xs ∧ cut mark xs = (xs, none) ∨
      ∃ before after, xs = before ++ mark :: after ∧ mark ∉ before ∧
        cut mark xs = (before, some after) := by
  induction xs with
  | nil => exact .inl ⟨List.not_mem_nil, rfl⟩
  | cons x xs ih =>
      by_cases h : x = mark
      · refine .inr ⟨[], xs, by rw [h, List.nil_append], List.not_mem_nil, ?_⟩
        rw [cut, if_pos (by simpa using h)]
      · rw [cut_cons_of_ne h]
        rcases ih with ⟨hnone, hcut⟩ | ⟨before, after, hxs, hnone, hcut⟩
        · refine .inl ⟨?_, by rw [hcut]⟩
          simpa [hnone] using Ne.symm h
        · refine .inr ⟨x :: before, after, by rw [hxs, List.cons_append], ?_, by rw [hcut]⟩
          simpa [hnone] using Ne.symm h

/-- What a cut leaves in front of it is without the mark. -/
theorem mem_of_mem_cut_fst {x : α} {xs : List α} (h : x ∈ (cut mark xs).1) :
    x ∈ xs ∧ x ≠ mark := by
  rcases cut_cases mark xs with ⟨hnone, hcut⟩ | ⟨before, after, hxs, hnone, hcut⟩
  · rw [hcut] at h
    exact ⟨h, fun heq => hnone (heq ▸ h)⟩
  · rw [hcut] at h
    exact ⟨hxs ▸ List.mem_append_left _ h, fun heq => hnone (heq ▸ h)⟩

/-- What has no mark is not cut. -/
theorem cut_of_not_mem {xs : List α} (h : mark ∉ xs) : cut mark xs = (xs, none) := by
  rcases cut_cases mark xs with ⟨-, hcut⟩ | ⟨before, after, hxs, -, -⟩
  · exact hcut
  · rw [hxs] at h
    exact absurd (List.mem_append_right before List.mem_cons_self) h

/-- The first mark is where the cut is made. -/
theorem cut_append_mark {xs : List α} (h : mark ∉ xs) (ys : List α) :
    cut mark (xs ++ mark :: ys) = (xs, some ys) := by
  rw [cut_append_of_not_mem h, cut, if_pos (beq_self_eq_true mark), List.append_nil]

/-- The last mark is where a cut at the last one is made. -/
theorem cutLast_append_mark {ys : List α} (h : mark ∉ ys) (xs : List α) :
    cutLast mark (xs ++ mark :: ys) = (some xs, ys) := by
  have hreverse : (xs ++ mark :: ys).reverse = ys.reverse ++ mark :: xs.reverse := by simp
  rw [cutLast, hreverse, cut_append_mark (by simpa using h)]
  simp

/-- A list is what a cut at the last mark makes of it, put together again. -/
theorem cutLast_cases (mark : α) (xs : List α) :
    mark ∉ xs ∧ cutLast mark xs = (none, xs) ∨
      ∃ before after, xs = before ++ mark :: after ∧ mark ∉ after ∧
        cutLast mark xs = (some before, after) := by
  rcases cut_cases mark xs.reverse with ⟨hnone, hcut⟩ | ⟨last, before, hxs, hnone, hcut⟩
  · refine .inl ⟨by simpa using hnone, ?_⟩
    rw [cutLast, hcut]
    simp
  · refine .inr ⟨before.reverse, last.reverse, ?_, by simpa using hnone, by rw [cutLast, hcut]; rfl⟩
    rw [← List.reverse_inj, hxs]
    simp

theorem cutLast_of_not_mem {xs : List α} (h : mark ∉ xs) : cutLast mark xs = (none, xs) := by
  rw [cutLast, cut_of_not_mem (by simpa using h)]
  simp

/-- What a cut at the last mark leaves behind it is without the mark. -/
theorem mem_of_mem_cutLast_snd {x : α} {xs : List α} (h : x ∈ (cutLast mark xs).2) :
    x ∈ xs ∧ x ≠ mark := by
  rcases cutLast_cases mark xs with ⟨hnone, hcut⟩ | ⟨before, after, hxs, hnone, hcut⟩
  · rw [hcut] at h
    exact ⟨h, fun heq => hnone (heq ▸ h)⟩
  · rw [hcut] at h
    refine ⟨?_, fun heq => hnone (heq ▸ h)⟩
    rw [hxs]
    exact List.mem_append_right _ (List.mem_cons_of_mem _ h)

theorem splitOn_cons_of_ne {x : α} (h : x ≠ mark) (xs : List α) :
    ∃ part parts, splitOn mark (x :: xs) = (x :: part) :: parts := by
  have hne : (x == mark) = false := by simpa using h
  rw [splitOn, hne, if_neg Bool.false_ne_true]
  cases splitOn mark xs with
  | nil => exact ⟨[], [], rfl⟩
  | cons part parts => exact ⟨part, parts, rfl⟩

/-- What has no mark is one part. -/
theorem splitOn_of_not_mem {xs : List α} (h : mark ∉ xs) : splitOn mark xs = [xs] := by
  induction xs with
  | nil => rfl
  | cons x xs ih =>
      rw [List.mem_cons, not_or] at h
      have hne : (x == mark) = false := by simpa using Ne.symm h.1
      rw [splitOn, hne, if_neg Bool.false_ne_true, ih h.2]

/-- The first part ends at the first mark. -/
theorem splitOn_append_mark {xs : List α} (h : mark ∉ xs) (ys : List α) :
    splitOn mark (xs ++ mark :: ys) = xs :: splitOn mark ys := by
  induction xs with
  | nil => rw [List.nil_append, splitOn, beq_self_eq_true, if_pos rfl]
  | cons x xs ih =>
      rw [List.mem_cons, not_or] at h
      have hne : (x == mark) = false := by simpa using Ne.symm h.1
      rw [List.cons_append, splitOn, hne, if_neg Bool.false_ne_true, ih h.2]

/-- The parts between marks are those that were put together with marks between them. -/
theorem splitOn_intercalate {parts : List (List α)} (nonempty : parts ≠ [])
    (h : ∀ part ∈ parts, mark ∉ part) : splitOn mark ([mark].intercalate parts) = parts := by
  induction parts with
  | nil => exact absurd rfl nonempty
  | cons part parts ih =>
      rw [List.forall_mem_cons] at h
      cases parts with
      | nil => rw [List.intercalate_singleton, splitOn_of_not_mem h.1]
      | cons next parts =>
          rw [List.intercalate_cons_cons, List.append_assoc, List.singleton_append,
            splitOn_append_mark h.1, ih (List.cons_ne_nil _ _) h.2]

end SqlRender.Text
