import Mathlib
import SqlRender.Text.Alphanumeric
import SqlRender.Value.Printer

/-!
# Letters and digits in messages

Letters and digits are shown as themselves in the text of a text: no letter or digit is among the
characters that are escaped. The tables of both are long, so they are compared in one pass, which
says something of all characters because both tables are in order.
-/

namespace SqlRender.Text

/-! ## Sets of characters without common members -/

namespace CodeRanges

/-- Ranges of which the first ends before the second begins. -/
def Before (x y : Nat × Nat) : Prop :=
  x.1 ≤ x.2 ∧ x.2 < y.1 ∧ y.1 ≤ y.2

instance : DecidableRel Before :=
  fun _ _ => inferInstanceAs (Decidable (_ ∧ _))

instance : Trans Before Before Before where
  trans hxy hyz := ⟨hxy.1, hxy.2.1.trans (hyz.1.trans_lt hyz.2.1), hyz.2.2⟩

/-- Whether ranges have no member in common with others, told in one pass over both. -/
def areApart : CodeRanges → CodeRanges → Bool
  | [], _ => true
  | x :: xs, ys =>
    let rest := ys.dropWhile fun y => y.2 < x.1
    rest.head?.all (fun y => x.2 < y.1) && areApart xs rest

/-- Ranges in order that are told apart in one pass are apart. -/
theorem not_mem_of_areApart {xs ys : CodeRanges} (hxs : xs.Pairwise Before)
    (hys : ys.Pairwise Before) (h : areApart xs ys = true) {n : Nat} {x y : Nat × Nat}
    (hx : x ∈ xs) (hnx : x.1 ≤ n ∧ n ≤ x.2) (hy : y ∈ ys) : ¬ (y.1 ≤ n ∧ n ≤ y.2) := by
  rintro ⟨hlow, hhigh⟩
  induction xs generalizing ys with
  | nil => cases hx
  | cons first xs ih =>
      obtain ⟨hfirst, hxs⟩ := List.pairwise_cons.1 hxs
      rw [areApart, Bool.and_eq_true] at h
      obtain ⟨hhead, hrest⟩ := h
      rw [← List.takeWhile_append_dropWhile (p := fun y => y.2 < first.1) (l := ys),
        List.pairwise_append] at hys
      rw [← List.takeWhile_append_dropWhile (p := fun y => y.2 < first.1) (l := ys),
        List.mem_append] at hy
      rcases hy with hdropped | hkept
      · -- what is left behind ends before the first range and so before all of them
        have hend : y.2 < first.1 := by simpa using List.mem_takeWhile_imp hdropped
        rcases List.mem_cons.1 hx with rfl | hlater
        · omega
        · obtain ⟨hproper, hbefore, -⟩ := hfirst x hlater
          omega
      · rcases List.mem_cons.1 hx with rfl | hlater
        · cases hys' : ys.dropWhile fun y => y.2 < x.1 with
          | nil =>
              rw [hys'] at hkept
              cases hkept
          | cons z zs =>
              rw [hys'] at hkept hhead hys
              have hz : x.2 < z.1 := by simpa using hhead
              rcases List.mem_cons.1 hkept with rfl | hmore
              · omega
              · obtain ⟨hproper, hbefore, -⟩ := (List.pairwise_cons.1 hys.2.1).1 y hmore
                omega
        · exact ih hxs hys.2.1 hrest hlater hkept

end CodeRanges

/-! ## Letters and digits -/

section Alphanumeric

variable {c : Char}

/-- The numbers of the ASCII letters and digits. -/
theorem toNat_of_isAlphanum (h : c.isAlphanum = true) :
    ((65 ≤ c.toNat ∧ c.toNat ≤ 90) ∨ (97 ≤ c.toNat ∧ c.toNat ≤ 122)) ∨
      (48 ≤ c.toNat ∧ c.toNat ≤ 57) := by
  simp only [Char.isAlphanum, Char.isAlpha, Char.isUpper, Char.isLower, Char.isDigit,
    Bool.or_eq_true, Bool.and_eq_true, decide_eq_true_eq, UInt32.le_iff_toNat_le] at h
  exact h

theorem isPrintable_of_isAlphanumeric (h : isAlphanumeric c = true) : isPrintable c = true := by
  unfold isAlphanumeric at h
  unfold isPrintable
  split at h
  · rename_i hascii
    have hrange := toNat_of_isAlphanum h
    rw [if_pos hascii]
    simp only [Bool.and_eq_true, decide_eq_true_eq]
    omega
  · rename_i hbeyond
    rw [if_neg hbeyond, Bool.not_eq_true', ← Bool.not_eq_true]
    intro hunprintable
    obtain ⟨x, hx, hcx⟩ := List.any_eq_true.1 h
    obtain ⟨y, hy, hcy⟩ := List.any_eq_true.1 hunprintable
    simp only [Bool.and_eq_true, decide_eq_true_eq] at hcx hcy
    have hxs : alphanumericRanges.IsChain CodeRanges.Before := by decide +kernel
    have hys : unprintableRanges.IsChain CodeRanges.Before := by decide +kernel
    exact CodeRanges.not_mem_of_areApart hxs.pairwise hys.pairwise (by decide +kernel) hx hcx hy hcy

/-- A letter or digit is no character that is neither. -/
theorem ne_of_isAlphanumeric (h : isAlphanumeric c = true) {d : Char}
    (hd : isAlphanumeric d = false) : c ≠ d := by
  rintro rfl
  rw [h] at hd
  cases hd

end Alphanumeric

end SqlRender.Text

/-! ## Messages -/

namespace SqlRender.Value

open Text (isAlphanumeric isPrintable)

variable {cs : List Char}

theorem escapeChar_of_isAlphanumeric {c : Char} (h : isAlphanumeric c = true)
    {guarded : Char → Bool} (hguarded : guarded c = false) :
    escapeChar guarded isPrintable c = c.toString := by
  have hne (d : Char) (hd : isAlphanumeric d = false) : c ≠ d :=
    Text.ne_of_isAlphanumeric h hd
  rw [escapeChar, if_neg (by simp [hguarded, hne '\\' (by decide)]),
    if_neg (hne '\n' (by decide)), if_neg (hne '\r' (by decide)), if_neg (hne '\t' (by decide)),
    if_pos (Text.isPrintable_of_isAlphanumeric h)]

theorem quoteMark_of_isAlphanumeric (h : ∀ c ∈ cs, isAlphanumeric c = true)
    (front back : List Char) : quoteMark (front ++ (cs ++ back)) = quoteMark (front ++ back) := by
  have absent (d : Char) (hd : isAlphanumeric d = false) : d ∉ cs :=
    fun hmem => Text.ne_of_isAlphanumeric (h d hmem) hd rfl
  simp [quoteMark, absent '\'' (by decide), absent '"' (by decide)]

/-- Letters and digits inside a text are shown as themselves, and do not change how the rest of it
is shown. -/
theorem printText_of_isAlphanumeric (front back : List Char) :
    ∃ shownFront shownBack : String, ∀ cs : List Char, (∀ c ∈ cs, isAlphanumeric c = true) →
      printText (String.ofList (front ++ (cs ++ back))) =
        shownFront ++ String.ofList cs ++ shownBack := by
  let mark := quoteMark (front ++ back)
  let inside := escapeChar (fun c => c = mark || (false && c = '\'')) isPrintable
  refine ⟨mark.toString ++ String.join (front.map inside),
    String.join (back.map inside) ++ mark.toString, fun cs h => ?_⟩
  have hmark : isAlphanumeric mark = false := by
    simp only [mark, quoteMark]
    split <;> decide
  have heach : cs.map inside = cs.map Char.toString :=
    List.map_congr_left fun c hc => escapeChar_of_isAlphanumeric (h c hc)
      (by simpa using Text.ne_of_isAlphanumeric (h c hc) hmark)
  have hshown : String.join (cs.map inside) = String.ofList cs := by
    rw [heach, ← String.toList_inj]
    simp [List.flatMap_map]
  rw [printText, String.toList_ofList, escape, quoteMark_of_isAlphanumeric h]
  simp only [List.map_append, String.join_append, ← hshown, String.append_assoc, inside, mark]

end SqlRender.Value
