import SqlRender.Proofs.Text.Plain
import SqlRender.Proofs.Text.Quoting

/-!
# Reading quoted tokens

A reader that knows nothing of a text but the marks of its quoted tokens, each of which is written
twice inside a token that it ends. It sees the characters outside of tokens, and that there is a
token, but not what is in it. Tokens of the same mark that touch each other are one token to it.

A text that a reader leaves outside of tokens after it started there can stand anywhere between
others (`Scanner.Balanced.seenAlike`), and a quoted token can be replaced by another one
(`Scanner.quote_seenAlike`).
-/

namespace SqlRender.Text.Scanner

/-- Where a reader is: outside of tokens, inside one, or after a mark that ends one unless another
mark follows. -/
inductive Place where
  | outside
  | inside (mark : Char)
  | closed (mark : Char)
  deriving DecidableEq, Repr

/-- What a reader sees. -/
inductive Sight where
  | char (c : Char)
  | token
  deriving DecidableEq, Repr

variable (marks : List Char)

/-- Where a character leads to and what is seen then. -/
def step : Place → Char → Place × List Sight
  | .outside, c => if c ∈ marks then (.inside c, [.token]) else (.outside, [.char c])
  | .inside m, c => if c = m then (.closed m, []) else (.inside m, [])
  | .closed m, c =>
    if c = m then (.inside m, [])
    else if c ∈ marks then (.inside c, [.token])
    else (.outside, [.char c])

/-- Where a text leads to and what is seen of it. -/
def scan (place : Place) : List Char → Place × List Sight
  | [] => (place, [])
  | c :: cs =>
    ((scan (step marks place c).1 cs).1,
      (step marks place c).2 ++ (scan (step marks place c).1 cs).2)

/-- What a reader that starts outside of tokens sees of a text, and where it ends. -/
def read (s : String) : Place × List Sight :=
  scan marks .outside s.toList

/-- Whether a reader is outside of tokens, of which only marks are the ends. -/
def Place.IsOutside : Place → Prop
  | .outside => True
  | .inside _ => False
  | .closed m => m ∈ marks

/-- A text that leads from outside of tokens to outside. -/
def Balanced (s : String) : Prop :=
  (read marks s).1.IsOutside marks

variable {marks}

theorem scan_append (place : Place) (xs ys : List Char) :
    scan marks place (xs ++ ys) =
      ((scan marks (scan marks place xs).1 ys).1,
        (scan marks place xs).2 ++ (scan marks (scan marks place xs).1 ys).2) := by
  induction xs generalizing place with
  | nil => rfl
  | cons x xs ih => simp [scan, ih]

/-- Outside of tokens it does not matter where a reader is for where the next character leads. -/
theorem step_outside {place : Place} (h : place.IsOutside marks) (c : Char) :
    (step marks place c).1 = (step marks .outside c).1 := by
  cases place with
  | outside => rfl
  | inside m => exact h.elim
  | closed m =>
      have hm : m ∈ marks := h
      by_cases hc : c = m
      · -- the token that seemed to end goes on, which is no other place than in a new one
        subst hc
        simp [step, hm]
      · by_cases hmark : c ∈ marks <;> simp [step, hc, hmark]

theorem Balanced.place {s : String} (h : Balanced marks s) {place : Place}
    (hplace : place.IsOutside marks) : (scan marks place s.toList).1.IsOutside marks := by
  unfold Balanced read at h
  generalize s.toList = cs at h
  cases cs with
  | nil => exact hplace
  | cons c cs =>
      rw [scan] at h ⊢
      simp only at h ⊢
      rw [step_outside hplace]
      exact h

/-- A reader that is inside a token stays there up to a single mark. -/
theorem scan_doubled (m : Char) (cs : List Char) :
    scan marks (.inside m) (doubled m cs) = (.inside m, []) := by
  induction cs with
  | nil => rfl
  | cons c cs ih =>
      by_cases hc : c = m
      · subst hc
        simp [scan, step, ih]
      · rw [doubled_cons_of_ne hc]
        simp [scan, step, hc, ih]

/-- A quoted token leads from outside of tokens to its end, whatever is in it. -/
theorem scan_quote {m : Char} (hm : m ∈ marks) {place : Place} (h : place.IsOutside marks)
    (cs : List Char) :
    scan marks place (m :: (doubled m cs ++ [m])) = (.closed m, (step marks place m).2) := by
  have hinside : (step marks place m).1 = .inside m := by
    rw [step_outside h]
    simp [step, hm]
  rw [scan, hinside, scan_append, scan_doubled]
  simp [scan, step]

/-- Texts that are empty together and that a reader outside of tokens cannot tell apart, and after
which it is outside again. -/
structure SeenAlike (marks : List Char) (s t : String) : Prop where
  empty : s = "" ↔ t = ""
  place {place : Place} : place.IsOutside marks → (scan marks place s.toList).1.IsOutside marks
  scan {place : Place} : place.IsOutside marks →
    Scanner.scan marks place s.toList = Scanner.scan marks place t.toList

theorem SeenAlike.append {s s' t t' : String} (h : SeenAlike marks s t)
    (h' : SeenAlike marks s' t') : SeenAlike marks (s ++ s') (t ++ t') where
  empty := by
    rw [String.append_eq_empty_iff, String.append_eq_empty_iff, h.empty, h'.empty]
  place hplace := by
    rw [String.toList_append, scan_append]
    exact h'.place (h.place hplace)
  scan hplace := by
    -- the second texts are read from the same place, and that is outside of tokens
    rw [String.toList_append, String.toList_append, scan_append, scan_append, h.scan hplace,
      h'.scan (h.scan hplace ▸ h.place hplace)]

theorem Balanced.seenAlike {s : String} (h : Balanced marks s) : SeenAlike marks s s :=
  ⟨Iff.rfl, h.place, fun _ => rfl⟩

/-- A quoted token can be replaced by any other one with the same mark. -/
theorem quote_seenAlike {mark : String} {m : Char} (hmark : mark.toList = [m]) (hm : m ∈ marks)
    (s t : String) : SeenAlike marks (quote mark s) (quote mark t) where
  empty := by
    simp [← String.toList_inj, toList_quote hmark]
  place hplace := by
    rw [toList_quote hmark, scan_quote hm hplace]
    exact hm
  scan hplace := by
    rw [toList_quote hmark, toList_quote hmark, scan_quote hm hplace, scan_quote hm hplace]

theorem scan_of_not_mem {cs : List Char} (h : ∀ c ∈ cs, c ∉ marks) :
    (Scanner.scan marks .outside cs).1 = .outside := by
  induction cs with
  | nil => rfl
  | cons c cs ih =>
      rw [List.forall_mem_cons] at h
      simp only [Scanner.scan, step, h.1, if_false]
      exact ih h.2

/-- A text without marks is balanced. -/
theorem balanced_of_not_mem {s : String} (h : ∀ c ∈ s.toList, c ∉ marks) : Balanced marks s := by
  unfold Balanced read
  rw [scan_of_not_mem h]
  trivial

/-- In a text without quotation marks there are no marks of any tokens. -/
theorem balanced_of_isUnmarked (hmarks : ∀ m ∈ marks, m = '\'' ∨ m = '"' ∨ m = '`') {s : String}
    (h : isUnmarked s = true) : Balanced marks s := by
  refine balanced_of_not_mem fun c hc hm => ?_
  have hunmarked : c ≠ '\'' ∧ c ≠ '"' ∧ c ≠ '`' := by
    simpa [and_assoc] using List.all_eq_true.1 h c hc
  rcases hmarks c hm with rfl | rfl | rfl
  · exact hunmarked.1 rfl
  · exact hunmarked.2.1 rfl
  · exact hunmarked.2.2 rfl

theorem balanced_of_isPlain (hmarks : ∀ m ∈ marks, m = '\'' ∨ m = '"' ∨ m = '`') {s : String}
    (h : isPlain s = true) : Balanced marks s :=
  balanced_of_isUnmarked hmarks (isUnmarked_of_isPlain h)

end SqlRender.Text.Scanner
