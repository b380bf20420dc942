import Mathlib
import SqlRender.Proofs.Text.LowerCase

/-!
# What lower case leaves alone

A text in lower case stays as it is when it is made lower case again (`lower_lower`), which rests on
the table of capitals: no lower-case form in it is a capital. Marks and digits, which have no case,
are in the lower-case form of a text exactly where they are in the text (`mem_lower_iff`), and one
that ends words parts a text into two that are made lower case on their own (`lower_append_break`).
-/

namespace SqlRender.Text

/-! ## The table of capitals -/

namespace CaseRun

/-- Whether the capital with a code is in a run. -/
def has (run : CaseRun) (n : Nat) : Bool :=
  run.first ≤ n && n ≤ run.last && (n - run.first) % run.step == 0

/-- The code of the lower-case form of a capital in a run. -/
def form (run : CaseRun) (n : Nat) : Nat :=
  run.target + (n - run.first)

/-- The code of the last lower-case form of a run. -/
def lastForm (run : CaseRun) : Nat :=
  run.form run.last

/-- Whether the forms of a run lie outside of another run, or between its capitals. -/
def misses (run other : CaseRun) : Bool :=
  run.lastForm < other.first || other.last < run.target ||
    (other.step == 2 && (run.step == 2 || run.first == run.last) &&
      (run.target + other.first) % 2 == 1)

/-- Whether the forms of a run are characters that no rule for capitals applies to. -/
def isSettled (run : CaseRun) : Bool :=
  (run.lastForm < 0xd800 || 0xdfff < run.target && run.lastForm < 0x110000) &&
    (0x80 ≤ run.target || run.target == 'k'.toNat && run.first == run.last) &&
    (run.lastForm < 'İ'.toNat || 'İ'.toNat < run.target) && caseRuns.all run.misses

theorem isSettled_of_mem {run : CaseRun} (h : run ∈ caseRuns) : run.isSettled = true := by
  have htable : caseRuns.all isSettled = true := by decide +kernel
  exact List.all_eq_true.1 htable run h

variable {run other : CaseRun} {n : Nat}

theorem has_iff : run.has n = true ↔
    run.first ≤ n ∧ n ≤ run.last ∧ (n - run.first) % run.step = 0 := by
  rw [has, Bool.and_eq_true, Bool.and_eq_true, decide_eq_true_iff, decide_eq_true_iff, beq_iff_eq,
    and_assoc]

/-- The forms of a run lie in one stretch. -/
theorem form_bounds (h : run.has n = true) :
    run.target ≤ run.form n ∧ run.form n ≤ run.lastForm := by
  obtain ⟨hfirst, hlast, -⟩ := has_iff.1 h
  unfold lastForm form
  omega

/-- A form that misses a run is no capital of it. -/
theorem has_form (hmisses : run.misses other = true) (h : run.has n = true) :
    other.has (run.form n) = false := by
  obtain ⟨htarget, hend⟩ := form_bounds h
  obtain ⟨hfirst, hlast, hstep⟩ := has_iff.1 h
  rw [← Bool.not_eq_true, has_iff]
  rintro ⟨hlow, hhigh, hother⟩
  simp only [misses, Bool.or_eq_true, Bool.and_eq_true, decide_eq_true_iff, beq_iff_eq] at hmisses
  rcases hmisses with (hbefore | hafter) | ⟨⟨htwo, hrun⟩, hodd⟩
  · omega
  · omega
  · -- every second character of the other run is a capital, and the forms are the ones between
    have heven : (n - run.first) % 2 = 0 := by
      rcases hrun with hrun | hrun
      · rw [← hrun]
        exact hstep
      · have hsame : n - run.first = 0 := by omega
        rw [hsame]
    rw [htwo] at hother
    unfold form at hlow hhigh hother
    omega

end CaseRun

/-- What a character becomes by the table: its ASCII form, the form of a run, or itself. -/
theorem lowerChar_cases (c : Char) :
    c.toNat < 0x80 ∧ lowerChar c = c.toLower ∨
      (∃ run ∈ caseRuns, run.has c.toNat = true ∧
        lowerChar c = Char.ofNat (run.form c.toNat)) ∨
      0x80 ≤ c.toNat ∧ lowerChar c = c := by
  by_cases hascii : c.toNat < 0x80
  · exact .inl ⟨hascii, if_pos hascii⟩
  · rw [lowerChar, if_neg hascii]
    cases hfind : caseRuns.find? fun run =>
        run.first ≤ c.toNat && c.toNat ≤ run.last && (c.toNat - run.first) % run.step == 0 with
    | none => exact .inr (.inr ⟨Nat.le_of_not_lt hascii, rfl⟩)
    | some run =>
        have hhas : run.has c.toNat = true := by
          have hfound := List.find?_some hfind
          exact hfound
        exact .inr (.inl ⟨run, List.mem_of_find?_eq_some hfind, hhas, rfl⟩)

/-- A character that is in no run stays as it is. -/
theorem lowerChar_of_forall_not_has {c : Char} (hbeyond : 0x80 ≤ c.toNat)
    (h : ∀ run ∈ caseRuns, run.has c.toNat = false) : lowerChar c = c := by
  rcases lowerChar_cases c with ⟨hascii, -⟩ | ⟨run, hmem, hhas, -⟩ | ⟨-, hsame⟩
  · omega
  · rw [h run hmem] at hhas
    cases hhas
  · exact hsame

theorem toNat_form {run : CaseRun} (hmem : run ∈ caseRuns) {n : Nat} (h : run.has n = true) :
    (Char.ofNat (run.form n)).toNat = run.form n := by
  obtain ⟨htarget, hend⟩ := CaseRun.form_bounds h
  have hsettled := CaseRun.isSettled_of_mem hmem
  simp only [CaseRun.isSettled, Bool.and_eq_true, Bool.or_eq_true, decide_eq_true_iff]
    at hsettled
  have hvalid : (run.form n).isValidChar := by
    rcases hsettled.1.1.1 with hlow | ⟨hlow, hhigh⟩
    · exact .inl (by omega)
    · exact .inr ⟨by omega, by omega⟩
  rw [Char.ofNat, dif_pos hvalid]
  rfl

/-! ## Lower case again -/

/-- By the table alone the sigma is a capital like others. -/
theorem exists_run_sigma : ∃ run ∈ caseRuns, run.has 'Σ'.toNat = true := by
  have htable : (caseRuns.any fun run => run.has 'Σ'.toNat) = true := by decide +kernel
  exact List.any_eq_true.1 htable

/-- A character that no rule for capitals applies to. -/
structure IsLower (c : Char) : Prop where
  same : lowerChar c = c
  ne_sigma : c ≠ 'Σ'
  ne_dotted : c ≠ 'İ'

theorem isLower_toLower {c : Char} (hascii : c.toNat < 0x80) : IsLower c.toLower := by
  have hbound : c.toLower.toNat < 0x80 := by
    unfold Char.toLower
    split
    · rename_i hupper
      have hlast : c.toNat ≤ 90 := UInt32.le_iff_toNat_le.1 hupper.2
      show (c.val + 32).toNat < 0x80
      rw [UInt32.toNat_add]
      show (c.toNat + 32) % _ < 0x80
      omega
    · exact hascii
  have hne (d : Char) (hd : 0x80 ≤ d.toNat) : c.toLower ≠ d := by
    rintro rfl
    omega
  refine ⟨?_, hne 'Σ' (by decide), hne 'İ' (by decide)⟩
  rw [lowerChar, if_pos hbound, Char.toLower_toLower_eq_toLower]

/-- The forms of a run are settled, so that none of them is a capital. -/
theorem isLower_form {run : CaseRun} (hmem : run ∈ caseRuns) {n : Nat} (hhas : run.has n = true) :
    IsLower (Char.ofNat (run.form n)) := by
  have hcode := toNat_form hmem hhas
  obtain ⟨htarget, hend⟩ := CaseRun.form_bounds hhas
  have hsettled := CaseRun.isSettled_of_mem hmem
  simp only [CaseRun.isSettled, Bool.and_eq_true, Bool.or_eq_true, decide_eq_true_iff,
    beq_iff_eq, List.all_eq_true] at hsettled
  obtain ⟨⟨⟨-, hascii⟩, hapart⟩, hmisses⟩ := hsettled
  have hnone (other : CaseRun) (hother : other ∈ caseRuns) : other.has (run.form n) = false :=
    CaseRun.has_form (hmisses other hother) hhas
  refine ⟨?_, ?_, ?_⟩
  · rcases hascii with hbeyond | ⟨hk, hone⟩
    · refine lowerChar_of_forall_not_has (by omega) ?_
      rw [hcode]
      exact hnone
    · -- the sign for kelvins becomes an ASCII letter
      have hform : run.form n = 'k'.toNat := by
        unfold CaseRun.lastForm at hend
        unfold CaseRun.form at hend htarget ⊢
        obtain ⟨hfirst, hlast, -⟩ := CaseRun.has_iff.1 hhas
        omega
      rw [hform]
      decide
  · intro heq
    obtain ⟨other, hother, hsigma'⟩ := exists_run_sigma
    rw [← heq, hcode, hnone other hother] at hsigma'
    cases hsigma'
  · intro heq
    have hform : run.form n = 'İ'.toNat := by rw [← hcode, heq]
    omega

/-- The lower-case form of a character is in lower case. -/
theorem isLower_lowerChar {c : Char} (hsigma : c ≠ 'Σ') (hdotted : c ≠ 'İ') :
    IsLower (lowerChar c) := by
  rcases lowerChar_cases c with ⟨hascii, hlower⟩ | ⟨run, hmem, hhas, hlower⟩ | ⟨-, hsame⟩
  · rw [hlower]
    exact isLower_toLower hascii
  · rw [hlower]
    exact isLower_form hmem hhas
  · rw [hsame]
    exact ⟨hsame, hsigma, hdotted⟩

/-- What the rules for single capitals give is in lower case. -/
theorem isLower_special : ∀ c ∈ ['σ', 'ς', 'i', '\u0307'], IsLower c := by
  have htable : ([0x3c3, 0x3c2, 0x307].all fun n => caseRuns.all fun run => !run.has n) = true := by
    decide +kernel
  have hsame {c : Char} (hc : c.toNat ∈ [0x3c3, 0x3c2, 0x307]) : lowerChar c = c := by
    refine lowerChar_of_forall_not_has ?_ fun run hmem => ?_
    · simp only [List.mem_cons, List.not_mem_nil, or_false] at hc
      omega
    · simpa using List.all_eq_true.1 (List.all_eq_true.1 htable c.toNat hc) run hmem
  intro c hc
  refine ⟨?_, ?_, ?_⟩
  · simp only [List.mem_cons, List.not_mem_nil, or_false] at hc
    rcases hc with rfl | rfl | rfl | rfl
    · exact hsame (by decide)
    · exact hsame (by decide)
    · rfl
    · exact hsame (by decide)
  · rintro rfl
    simp at hc
  · rintro rfl
    simp at hc

theorem isLower_of_mem_lowerFrom {before cs : List Char} {c : Char} (h : c ∈ lowerFrom before cs) :
    IsLower c := by
  induction cs generalizing before with
  | nil => cases h
  | cons d cs ih =>
      rw [lowerFrom, List.mem_append] at h
      rcases h with hfirst | hrest
      · split at hfirst
        · refine isLower_special c ?_
          rw [List.mem_singleton] at hfirst
          rw [hfirst]
          split <;> simp
        · rename_i hsigma
          split at hfirst
          · refine isLower_special c ?_
            rcases List.mem_cons.1 hfirst with rfl | hdot
            · simp
            · rw [List.mem_singleton.1 hdot]
              simp
          · rename_i hdotted
            rw [List.mem_singleton] at hfirst
            rw [hfirst]
            exact isLower_lowerChar hsigma hdotted
      · exact ih hrest

/-- Characters in lower case stay as they are. -/
theorem lowerFrom_of_isLower {before cs : List Char} (h : ∀ c ∈ cs, IsLower c) :
    lowerFrom before cs = cs := by
  induction cs generalizing before with
  | nil => rfl
  | cons c cs ih =>
      rw [List.forall_mem_cons] at h
      rw [lowerFrom, if_neg h.1.ne_sigma, if_neg h.1.ne_dotted, h.1.same, ih h.2]
      rfl

theorem lowerFrom_ne_nil (before : List Char) {cs : List Char} (h : cs ≠ []) :
    lowerFrom before cs ≠ [] := by
  obtain ⟨c, cs, rfl⟩ := List.exists_cons_of_ne_nil h
  rw [lowerFrom]
  split_ifs <;> simp

/-- ASCII characters become lower case one by one. -/
theorem lowerFrom_append_ascii {cs : List Char} (h : ∀ c ∈ cs, c.toNat < 0x80)
    (before rest : List Char) :
    lowerFrom before (cs ++ rest) =
      cs.map Char.toLower ++ lowerFrom (cs.reverse ++ before) rest := by
  induction cs generalizing before with
  | nil => rfl
  | cons c cs ih =>
      rw [List.forall_mem_cons] at h
      have hsigma : c ≠ 'Σ' := by
        rintro rfl
        exact absurd h.1 (by decide)
      have hdotted : c ≠ 'İ' := by
        rintro rfl
        exact absurd h.1 (by decide)
      have hlower : lowerChar c = c.toLower := if_pos h.1
      rw [List.cons_append, lowerFrom, if_neg hsigma, if_neg hdotted, hlower, ih h.2,
        List.map_cons, List.reverse_cons, List.append_assoc, List.singleton_append,
        List.singleton_append, List.cons_append]

/-- A text in lower case is its own lower-case form. -/
theorem lower_lower (s : String) : lower (lower s) = lower s := by
  have hlower : ∀ c ∈ lowerFrom [] s.toList, IsLower c := fun c => isLower_of_mem_lowerFrom
  rw [lower, lower, String.toList_ofList, lowerFrom_of_isLower hlower]

/-! ## Marks -/

/-- Whether a character is neither a capital nor a lower-case form. -/
def isCaseless (c : Char) : Bool :=
  !c.isAlpha && ['Σ', 'σ', 'ς', 'İ', '\u0307'].all (· ≠ c) &&
    caseRuns.all fun run =>
      (c.toNat < run.first || run.last < c.toNat) &&
        (c.toNat < run.target || run.lastForm < c.toNat)

section Caseless

variable {mark : Char} (caseless : isCaseless mark = true)

include caseless

/-- What becomes a mark was that mark. -/
theorem lowerChar_eq_iff (c : Char) : lowerChar c = mark ↔ c = mark := by
  simp only [isCaseless, Bool.and_eq_true, Bool.not_eq_true', List.all_eq_true, Bool.or_eq_true,
    decide_eq_true_iff] at caseless
  obtain ⟨⟨hletter, -⟩, hruns⟩ := caseless
  have hself {d : Char} (hd : d.isAlpha = false) : d.toLower = d := by
    refine Char.toLower_eq_of_not_isUpper fun hupper => ?_
    rw [Char.isAlpha, hupper, Bool.true_or] at hd
    cases hd
  rcases lowerChar_cases c with ⟨-, hlower⟩ | ⟨run, hmem, hhas, hlower⟩ | ⟨-, hsame⟩
  · rw [hlower]
    constructor
    · intro h
      have hc : c.isAlpha = false := by
        rw [← Char.isAlpha_toLower_eq_isAlpha, h, hletter]
      rw [← h, hself hc]
    · rintro rfl
      exact hself hletter
  · obtain ⟨hcapital, hform⟩ := hruns run hmem
    obtain ⟨htarget, hend⟩ := CaseRun.form_bounds hhas
    obtain ⟨hfirst, hlast, -⟩ := CaseRun.has_iff.1 hhas
    have hcode := toNat_form hmem hhas
    rw [hlower]
    constructor
    · intro h
      rw [h] at hcode
      omega
    · rintro rfl
      omega
  · rw [hsame]

/-- A mark is no capital with rules of its own, and no form of one. -/
theorem ne_special : ∀ c ∈ ['Σ', 'σ', 'ς', 'İ', 'i', '\u0307'], mark ≠ c := by
  have hall := caseless
  rw [isCaseless, Bool.and_eq_true, Bool.and_eq_true, List.all_eq_true] at hall
  intro c hc heq
  by_cases hi : c = 'i'
  · rw [heq, hi, isCaseless] at caseless
    cases caseless
  · have hspecial : c ∈ ['Σ', 'σ', 'ς', 'İ', '\u0307'] := by
      simp only [List.mem_cons, List.not_mem_nil, or_false] at hc ⊢
      tauto
    exact absurd heq.symm (of_decide_eq_true (hall.1.2 c hspecial))

/-- The form of a character has a mark in it only if it is that mark. -/
theorem mem_form_iff (final : Bool) (c : Char) :
    (mark ∈ if c = 'Σ' then [if final then 'ς' else 'σ']
      else if c = 'İ' then ['i', '\u0307']
      else [lowerChar c]) ↔ mark = c := by
  have hspecial := ne_special caseless
  split
  · rename_i hsigma
    rw [hsigma, List.mem_singleton]
    refine iff_of_false ?_ (hspecial 'Σ' (by simp))
    split
    · exact hspecial 'ς' (by simp)
    · exact hspecial 'σ' (by simp)
  · split
    · rename_i hdotted
      rw [hdotted]
      refine iff_of_false ?_ (hspecial 'İ' (by simp))
      simpa using ⟨hspecial 'i' (by simp), hspecial '\u0307' (by simp)⟩
    · rw [List.mem_singleton, eq_comm, lowerChar_eq_iff caseless, eq_comm]

theorem mem_lowerFrom_iff (before cs : List Char) : mark ∈ lowerFrom before cs ↔ mark ∈ cs := by
  induction cs generalizing before with
  | nil => rfl
  | cons c cs ih =>
      rw [lowerFrom, List.mem_append, List.mem_cons]
      exact or_congr (mem_form_iff caseless _ c) (ih (c :: before))

/-- A mark comes first in the lower-case form only if it does in the text. -/
theorem head?_of_lowerFrom {before cs : List Char}
    (h : (lowerFrom before cs).head? = some mark) : cs.head? = some mark := by
  cases cs with
  | nil => cases h
  | cons c cs =>
      have hform {form : List Char} (hne : form ≠ [])
          (hhead : form.head?.or (lowerFrom (c :: before) cs).head? = some mark) : mark ∈ form := by
        obtain ⟨d, form, rfl⟩ := List.exists_cons_of_ne_nil hne
        cases hhead
        exact List.mem_cons_self
      rw [lowerFrom, List.head?_append] at h
      have hmark := hform (by split_ifs <;> simp) h
      exact congrArg some ((mem_form_iff caseless _ c).1 hmark).symm

/-- A mark is in the lower-case form of a text if it is in the text. -/
theorem mem_lower_iff {s : String} : mark ∈ (lower s).toList ↔ mark ∈ s.toList := by
  rw [lower, String.toList_ofList, mem_lowerFrom_iff caseless [] s.toList]

end Caseless

/-! ## Marks that end words -/

/-- Whether a character is a mark that ends words. -/
def isBreak (c : Char) : Bool :=
  isCaseless c && !caseIgnorableRanges.has c && !casedRanges.has c

section Break

variable {mark : Char} (breaks : isBreak mark = true)

include breaks

theorem isCaseless_of_isBreak : isCaseless mark = true := by
  simp only [isBreak, Bool.and_eq_true] at breaks
  exact breaks.1.1

/-- What comes after the end of a word does not matter to it. -/
theorem meetsCased_append_break (cs rest : List Char) :
    meetsCased (cs ++ mark :: rest) = meetsCased cs := by
  simp only [isBreak, Bool.and_eq_true, Bool.not_eq_true'] at breaks
  obtain ⟨⟨-, hends⟩, huncased⟩ := breaks
  rw [meetsCased, meetsCased, List.dropWhile_append]
  cases hdrop : cs.dropWhile caseIgnorableRanges.has with
  | nil =>
      rw [List.isEmpty_nil, if_pos rfl, List.dropWhile_cons_of_neg (by simp [hends])]
      exact huncased
  | cons c cs' => rfl

theorem lowerFrom_append_break (before cs rest : List Char) :
    lowerFrom before (cs ++ mark :: rest) =
      lowerFrom before cs ++ mark :: lowerFrom (mark :: (cs.reverse ++ before)) rest := by
  have hcaseless := isCaseless_of_isBreak breaks
  induction cs generalizing before with
  | nil =>
      have hspecial := ne_special hcaseless
      show lowerFrom before (mark :: rest) = mark :: lowerFrom (mark :: before) rest
      rw [lowerFrom, if_neg (hspecial 'Σ' (by simp)), if_neg (hspecial 'İ' (by simp)),
        (lowerChar_eq_iff hcaseless mark).2 rfl]
      rfl
  | cons c cs ih =>
      rw [List.cons_append, lowerFrom, lowerFrom, ih, meetsCased_append_break breaks]
      simp

/-- Lower case is made on both sides of a mark that ends words. -/
theorem lower_append_break (cs rest : List Char) :
    ∃ rest', lower (String.ofList (cs ++ mark :: rest)) =
      String.ofList ((lower (String.ofList cs)).toList ++ mark :: rest') := by
  refine ⟨lowerFrom (mark :: (cs.reverse ++ [])) rest, ?_⟩
  rw [lower, lower, String.toList_ofList, String.toList_ofList, String.toList_ofList,
    lowerFrom_append_break breaks]

end Break

end SqlRender.Text
