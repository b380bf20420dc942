import Mathlib
import SqlRender.Text.LowerCase
import SqlRender.Text.Search

/-!
# Words in lower-case text

What a character becomes in lower case depends on the characters around it in one case only: a
capital sigma has another form at the end of a word. So a word without sigmas is found in the
lower-case form of a text exactly where it is found in its characters taken one by one
(`contains_lower`), and it does not come about when a text is cut.
-/

namespace SqlRender.Text

/-! ## Runs -/

theorem hasRun_iff {α : Type} [BEq α] [LawfulBEq α] {pattern xs : List α} :
    hasRun pattern xs = true ↔ pattern <:+: xs := by
  induction xs with
  | nil => rw [hasRun, List.isEmpty_iff, List.infix_nil]
  | cons x xs ih =>
      rw [hasRun, Bool.or_eq_true, List.isPrefixOf_iff_prefix, ih, List.infix_cons_iff]

/-- A run that has nothing of what follows lies in front of it. -/
theorem infix_of_infix_append {α : Type} {pattern xs ys : List α} (hne : pattern ≠ [])
    (apart : ∀ y ∈ ys, y ∉ pattern) (h : pattern <:+: xs ++ ys) : pattern <:+: xs := by
  rcases List.infix_append_iff.1 h with h | h | ⟨before, after, rfl, hbefore, hafter⟩
  · exact h
  · obtain ⟨c, hc⟩ := List.exists_mem_of_ne_nil pattern hne
    exact absurd hc (apart c (h.subset hc))
  · -- a run across the seam would have a character of what follows
    cases after with
    | nil =>
        rw [List.append_nil]
        exact hbefore.isInfix
    | cons c after =>
        have hc : c ∈ ys := hafter.subset (List.mem_cons_self ..)
        exact absurd (List.mem_append_right _ (List.mem_cons_self ..)) (apart c hc)

/-! ## Sigmas -/

/-- A character, with the sigma inside words in place of the one that ends them. -/
def medial (c : Char) : Char :=
  if c = 'ς' then 'σ' else c

/-- The lower-case form of a character wherever it stands. -/
def lowerApart (c : Char) : List Char :=
  if c = 'Σ' then ['σ'] else if c = 'İ' then ['i', '\u0307'] else [medial (lowerChar c)]

/-- A digit is its own lower-case form. -/
theorem lowerApart_of_isDigit {c : Char} (h : c.isDigit = true) : lowerApart c = [c] := by
  have hrange : 48 ≤ c.toNat ∧ c.toNat ≤ 57 := by
    simpa [Char.isDigit, UInt32.le_iff_toNat_le] using h
  have hne (d : Char) (hd : 57 < d.toNat) : c ≠ d := by
    rintro rfl
    omega
  have hlower : c.toLower = c := by
    refine dif_neg fun hupper => ?_
    have hbound : 65 ≤ c.toNat := UInt32.le_iff_toNat_le.1 hupper.1
    omega
  rw [lowerApart, if_neg (hne 'Σ' (by decide)), if_neg (hne 'İ' (by decide)), lowerChar,
    if_pos (by omega), hlower, medial, if_neg (hne 'ς' (by decide))]

/-- But for the forms of sigma, lower case is made character by character. -/
theorem map_medial_lowerFrom (before cs : List Char) :
    (lowerFrom before cs).map medial = cs.flatMap lowerApart := by
  induction cs generalizing before with
  | nil => rfl
  | cons c cs ih =>
      rw [lowerFrom, List.map_append, ih, List.flatMap_cons, lowerApart]
      congr 1
      split
      · split <;> rfl
      · split <;> rfl

/-- Without a final sigma there is nothing to replace. -/
theorem map_medial {cs : List Char} (final : 'ς' ∉ cs) : cs.map medial = cs := by
  induction cs with
  | nil => rfl
  | cons c cs ih =>
      rw [List.mem_cons, not_or] at final
      rw [List.map_cons, ih final.2, medial, if_neg (Ne.symm final.1)]

/-- A word without sigmas is found whatever form the sigmas around it have. -/
theorem infix_map_medial {word cs : List Char} (inner : 'σ' ∉ word) (final : 'ς' ∉ word) :
    word <:+: cs.map medial ↔ word <:+: cs := by
  constructor
  · rintro ⟨before, after, h⟩
    obtain ⟨front, back, rfl, hfront, -⟩ := List.map_eq_append_iff.1 h.symm
    obtain ⟨head, found, rfl, -, rfl⟩ := List.map_eq_append_iff.1 hfront
    -- a final sigma in the place of the word would have become the other one
    have hsame : found.map medial = found :=
      map_medial fun hmem => inner (List.mem_map.2 ⟨_, hmem, rfl⟩)
    rw [hsame]
    exact ⟨head, back, rfl⟩
  · intro h
    rw [← map_medial final]
    exact h.map medial

/-- A word without sigmas is found in lower case where it is found character by character. -/
theorem contains_lower {text word : String} (inner : 'σ' ∉ word.toList)
    (final : 'ς' ∉ word.toList) :
    contains (lower text) word = true ↔ word.toList <:+: text.toList.flatMap lowerApart := by
  rw [contains, hasRun_iff, lower, String.toList_ofList, ← infix_map_medial inner final,
    map_medial_lowerFrom]

end SqlRender.Text
