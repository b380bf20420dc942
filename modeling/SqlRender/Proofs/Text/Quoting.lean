import SqlRender.Text.Quoted

/-!
# Quoting with a mark of one character

The marks of the built-in dialects have one character each. Then doubling goes character by
character, a quoted token can be taken apart at its ends, and the text that was quoted can be read
back from it (`readToken_doubled`).
-/

namespace SqlRender.Text

/-- The characters of a text with one of them written twice. -/
def doubled (mark : Char) (cs : List Char) : List Char :=
  cs.flatMap fun c => if c = mark then [mark, mark] else [c]

@[simp] theorem doubled_nil (mark : Char) : doubled mark [] = [] := rfl

@[simp] theorem doubled_cons_mark (mark : Char) (cs : List Char) :
    doubled mark (mark :: cs) = mark :: mark :: doubled mark cs := by
  simp [doubled]

theorem doubled_cons_of_ne {mark c : Char} (h : c ≠ mark) (cs : List Char) :
    doubled mark (c :: cs) = c :: doubled mark cs := by
  simp [doubled, h]

theorem doubleMarks_single (mark : Char) (cs : List Char) :
    doubleMarks [mark] 0 cs = doubled mark cs := by
  induction cs with
  | nil => rfl
  | cons c cs ih =>
      by_cases h : c = mark
      · subst h
        simp [doubleMarks, ih]
      · rw [doubled_cons_of_ne h]
        simp [doubleMarks, ih, Ne.symm h]

/-- The text of the rest of a quoted token, and what follows the token. After a mark the token is
over unless another mark comes next. -/
def readToken (mark : Char) (afterMark : Bool) : List Char → Option (List Char × List Char)
  | [] => if afterMark then some ([], []) else none
  | c :: cs =>
    if afterMark then
      if c = mark then (readToken mark false cs).map fun r => (c :: r.1, r.2)
      else some ([], c :: cs)
    else if c = mark then readToken mark true cs
    else (readToken mark false cs).map fun r => (c :: r.1, r.2)

/-- A quoted text is read back, if no mark follows its token. -/
theorem readToken_doubled {mark : Char} {rest : List Char} (hrest : rest.head? ≠ some mark)
    (cs : List Char) :
    readToken mark false (doubled mark cs ++ mark :: rest) = some (cs, rest) := by
  induction cs with
  | nil =>
      show readToken mark false (mark :: rest) = _
      rw [readToken, if_neg Bool.false_ne_true, if_pos rfl]
      cases rest with
      | nil => rfl
      | cons c rest =>
          have hc : c ≠ mark := fun h => hrest (congrArg some h)
          rw [readToken, if_pos rfl, if_neg hc]
  | cons c cs ih =>
      by_cases hc : c = mark
      · subst hc
        rw [doubled_cons_mark, List.cons_append, List.cons_append, readToken,
          if_neg Bool.false_ne_true, if_pos rfl, readToken, if_pos rfl, if_pos rfl, ih]
        rfl
      · rw [doubled_cons_of_ne hc, List.cons_append, readToken, if_neg Bool.false_ne_true,
          if_neg hc, ih]
        rfl

/-- What follows a token is shorter than the token and what follows it. -/
theorem length_of_readToken {mark : Char} {afterMark : Bool} {cs text rest : List Char}
    (h : readToken mark afterMark cs = some (text, rest)) : rest.length ≤ cs.length := by
  induction cs generalizing afterMark text with
  | nil =>
      cases afterMark with
      | true =>
          cases h
          exact Nat.le_refl 0
      | false => cases h
  | cons c cs ih =>
      have inside {rest' : List Char}
          (h : (readToken mark false cs).map (fun r => (c :: r.1, r.2)) = some (text, rest')) :
          ∃ text', readToken mark false cs = some (text', rest') := by
        obtain ⟨⟨text', rest''⟩, hread, heq⟩ := Option.map_eq_some_iff.1 h
        cases heq
        exact ⟨text', hread⟩
      rw [readToken] at h
      split at h
      · split at h
        · obtain ⟨text', hread⟩ := inside h
          exact Nat.le_succ_of_le (ih hread)
        · cases h
          exact Nat.le_refl _
      · split at h
        · exact Nat.le_succ_of_le (ih h)
        · obtain ⟨text', hread⟩ := inside h
          exact Nat.le_succ_of_le (ih hread)

/-- Doubled marks show where a text ends if no mark comes next: the closing mark stands alone. -/
theorem doubled_append_inj {mark : Char} {cs ds rest rest' : List Char}
    (hrest : rest.head? ≠ some mark) (hrest' : rest'.head? ≠ some mark)
    (h : doubled mark cs ++ mark :: rest = doubled mark ds ++ mark :: rest') :
    cs = ds ∧ rest = rest' := by
  have hread := readToken_doubled hrest cs
  rw [h, readToken_doubled hrest' ds] at hread
  cases hread
  exact ⟨rfl, rfl⟩

/-- The characters of a quoted token. -/
theorem toList_quote {mark : String} {m : Char} (h : mark.toList = [m]) (text : String) :
    (quote mark text).toList = m :: (doubled m text.toList ++ [m]) := by
  simp [quote, h, doubleMarks_single]

/-- The text of a token that is read from its opening mark on, and what follows the token. -/
def readQuoted (mark : Char) : List Char → Option (String × List Char)
  | [] => none
  | c :: cs =>
    if c = mark then (readToken mark false cs).map fun r => (String.ofList r.1, r.2) else none

/-- A quoted text is read back from its token, whatever its characters, if no mark follows. -/
theorem readQuoted_quote {mark : String} {m : Char} (h : mark.toList = [m]) {rest : List Char}
    (hrest : rest.head? ≠ some m) (text : String) :
    readQuoted m ((quote mark text).toList ++ rest) = some (text, rest) := by
  have hlist : (quote mark text).toList ++ rest =
      m :: (doubled m text.toList ++ m :: rest) := by
    rw [toList_quote h]
    simp
  rw [hlist, readQuoted, if_pos rfl, readToken_doubled hrest, Option.map_some, String.ofList_toList]

/-- What follows a token that was read is shorter than what was there. -/
theorem length_of_readQuoted {mark : Char} {cs rest : List Char} {text : String}
    (h : readQuoted mark cs = some (text, rest)) : rest.length < cs.length := by
  cases cs with
  | nil => cases h
  | cons c cs =>
      rw [readQuoted] at h
      split at h
      · obtain ⟨⟨text', rest'⟩, hread, heq⟩ := Option.map_eq_some_iff.1 h
        cases heq
        exact Nat.lt_succ_of_le (length_of_readToken hread)
      · cases h

/-- Quoting adds marks only. -/
theorem not_mem_quote {mark : String} {m c : Char} (h : mark.toList = [m]) (hm : c ≠ m)
    {text : String} (htext : c ∉ text.toList) : c ∉ (quote mark text).toList := by
  rw [toList_quote h]
  intro hmem
  rcases List.mem_cons.1 hmem with hopen | hrest
  · exact hm hopen
  rcases List.mem_append.1 hrest with hdoubled | hclose
  · obtain ⟨d, hd, hc⟩ := List.mem_flatMap.1 hdoubled
    split at hc
    · have hmark : c = m := by simpa using hc
      exact hm hmark
    · obtain rfl := List.mem_singleton.1 hc
      exact htext hd
  · exact hm (List.mem_singleton.1 hclose)

/-- A quoted token has its marks at least. -/
theorem quote_ne {mark : String} {m : Char} (h : mark.toList = [m]) (text : String) :
    quote mark text ≠ "" := by
  intro hempty
  have hlist := congrArg String.toList hempty
  rw [toList_quote h] at hlist
  cases hlist

/-- What is in none of several texts nor between them is not in what they are joined to. -/
theorem not_mem_intercalate {c : Char} {separator : String} (hseparator : c ∉ separator.toList)
    {texts : List String} (h : ∀ text ∈ texts, c ∉ text.toList) :
    c ∉ (separator.intercalate texts).toList := by
  induction texts with
  | nil => simp
  | cons text texts ih =>
      rw [List.forall_mem_cons] at h
      cases texts with
      | nil => simpa using h.1
      | cons next texts =>
          rw [String.intercalate_cons_cons, String.toList_append, String.toList_append,
            List.mem_append, List.mem_append, not_or, not_or]
          exact ⟨⟨h.1, hseparator⟩, ih h.2⟩

/-- Different texts have different tokens. -/
theorem quote_inj {mark : String} {m : Char} (h : mark.toList = [m]) {text text' : String} :
    quote mark text = quote mark text' ↔ text = text' := by
  constructor
  · intro hquote
    have hlist := congrArg String.toList hquote
    rw [toList_quote h, toList_quote h] at hlist
    obtain ⟨htext, -⟩ := doubled_append_inj (by simp) (by simp) (List.cons.inj hlist).2
    exact String.toList_inj.1 htext
  · rintro rfl
    rfl

end SqlRender.Text
