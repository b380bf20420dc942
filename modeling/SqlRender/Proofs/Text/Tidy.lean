import Mathlib.Data.List.Chain

/-!
# Tidy texts

A text is tidy if it has no space at its ends and no two in a row. Tidy texts one after the other
are tidy, and so they are with a space between them, as long as none of them is empty. A text with a
space at one end is frayed, and is not tidied by what is put around it.
-/

namespace SqlRender.Text

/-- No two spaces in a row. -/
def IsSparse (s : String) : Prop :=
  s.toList.IsChain fun a b => a ≠ ' ' ∨ b ≠ ' '

/-- No space at the ends, and no two in a row. -/
structure IsTidy (s : String) : Prop where
  start : s.toList.head? ≠ some ' '
  finish : s.toList.getLast? ≠ some ' '
  sparse : IsSparse s

instance (s : String) : Decidable (IsSparse s) :=
  inferInstanceAs (Decidable (List.IsChain _ _))

instance (s : String) : Decidable (IsTidy s) :=
  decidable_of_iff (s.toList.head? ≠ some ' ' ∧ s.toList.getLast? ≠ some ' ' ∧ IsSparse s)
    ⟨fun h => ⟨h.1, h.2.1, h.2.2⟩, fun h => ⟨h.start, h.finish, h.sparse⟩⟩

variable {a b : String}

/-- Two texts have no more spaces in a row than each, unless they meet with a space on either
side. -/
theorem IsSparse.append (ha : IsSparse a) (hb : IsSparse b)
    (meet : a.toList.getLast? ≠ some ' ' ∨ b.toList.head? ≠ some ' ') : IsSparse (a ++ b) := by
  unfold IsSparse
  rw [String.toList_append, List.isChain_append]
  refine ⟨ha, hb, ?_⟩
  intro x hx y hy
  rcases meet with hlast | hfirst
  · exact .inl fun h => hlast (h ▸ hx)
  · exact .inr fun h => hfirst (h ▸ hy)

/-- The first character is that of the first text, if this is not empty. -/
theorem head?_append (ne : a ≠ "") : (a ++ b).toList.head? = a.toList.head? := by
  rw [String.toList_append]
  exact List.head?_append_of_ne_nil _ (by simpa using ne)

/-- The last character is that of the last text, if this is not empty. -/
theorem getLast?_append (ne : b ≠ "") : (a ++ b).toList.getLast? = b.toList.getLast? := by
  rw [String.toList_append]
  exact List.getLast?_append_of_ne_nil _ (by simpa using ne)

theorem isTidy_empty : IsTidy "" := by
  decide

theorem IsTidy.append (ha : IsTidy a) (hb : IsTidy b) : IsTidy (a ++ b) := by
  by_cases ha_ne : a = ""
  · rw [ha_ne, String.empty_append]
    exact hb
  by_cases hb_ne : b = ""
  · rw [hb_ne, String.append_empty]
    exact ha
  refine ⟨?_, ?_, ha.sparse.append hb.sparse (.inl ha.finish)⟩
  · rw [head?_append ha_ne]
    exact ha.start
  · rw [getLast?_append hb_ne]
    exact hb.finish

/-- A tidy text behind one that may end with a space. -/
theorem IsTidy.after {word : String} (hb : IsTidy b) (hb_ne : b ≠ "") (sparse : IsSparse word)
    (start : word.toList.head? ≠ some ' ') : IsTidy (word ++ b) := by
  by_cases word_ne : word = ""
  · rw [word_ne, String.empty_append]
    exact hb
  refine ⟨?_, ?_, sparse.append hb.sparse (.inr hb.start)⟩
  · rw [head?_append word_ne]
    exact start
  · rw [getLast?_append hb_ne]
    exact hb.finish

/-- A tidy text in front of one that may start with a space. -/
theorem IsTidy.before {word : String} (ha : IsTidy a) (ha_ne : a ≠ "") (sparse : IsSparse word)
    (finish : word.toList.getLast? ≠ some ' ') : IsTidy (a ++ word) := by
  by_cases word_ne : word = ""
  · rw [word_ne, String.append_empty]
    exact ha
  refine ⟨?_, ?_, ha.sparse.append sparse (.inl ha.finish)⟩
  · rw [head?_append ha_ne]
    exact ha.start
  · rw [getLast?_append word_ne]
    exact finish

/-- Two tidy texts, neither of them empty, around one that may have spaces at its ends. -/
theorem IsTidy.around {word : String} (ha : IsTidy a) (ha_ne : a ≠ "") (hb : IsTidy b)
    (hb_ne : b ≠ "") (sparse : IsSparse word) : IsTidy (a ++ word ++ b) := by
  have hhead : (a ++ word).toList.head? ≠ some ' ' := by
    rw [head?_append ha_ne]
    exact ha.start
  exact hb.after hb_ne (ha.sparse.append sparse (.inl ha.finish)) hhead

/-- A space at one of the ends. -/
def IsFrayed (s : String) : Prop :=
  s.toList.head? = some ' ' ∨ s.toList.getLast? = some ' '

theorem IsFrayed.ne {s : String} (h : IsFrayed s) : s ≠ "" := by
  rintro rfl
  simp [IsFrayed] at h

/-- Two texts without spaces in a row do not meet with a space on either side. -/
theorem IsSparse.meet (h : IsSparse (a ++ b)) :
    a.toList.getLast? ≠ some ' ' ∨ b.toList.head? ≠ some ' ' := by
  unfold IsSparse at h
  rw [String.toList_append, List.isChain_append] at h
  by_contra hmeet
  simp only [not_or, not_not] at hmeet
  rcases h.2.2 ' ' hmeet.1 ' ' hmeet.2 with hne | hne <;> exact hne rfl

/-- Behind a space, and with nothing or a space behind it, a frayed text is not tidy. -/
theorem IsFrayed.not_isTidy {s : String} (h : IsFrayed s) (before : a.toList.getLast? = some ' ')
    (after : b = "" ∨ b.toList.head? = some ' ') : ¬ IsTidy (a ++ s ++ b) := by
  intro tidy
  have ne : s ≠ "" := h.ne
  rcases h with hstart | hfinish
  · have sparse := tidy.sparse
    rw [String.append_assoc] at sparse
    rcases sparse.meet with hne | hne
    · exact hne before
    · exact hne ((head?_append ne).trans hstart)
  · have hlast : (a ++ s).toList.getLast? = some ' ' := (getLast?_append ne).trans hfinish
    rcases after with rfl | hspace
    · rw [String.append_empty] at tidy
      exact tidy.finish hlast
    · rcases tidy.sparse.meet with hne | hne
      · exact hne hlast
      · exact hne hspace

/-- A text without spaces is tidy. -/
theorem isTidy_of_not_mem {s : String} (h : ' ' ∉ s.toList) : IsTidy s := by
  refine ⟨?_, ?_, ?_⟩
  · intro hhead
    exact h (List.mem_of_head? hhead)
  · intro hlast
    exact h (List.mem_of_getLast? hlast)
  · refine (List.pairwise_of_forall_mem_list fun c hc _ _ => .inl ?_).isChain
    rintro rfl
    exact h hc

end SqlRender.Text
