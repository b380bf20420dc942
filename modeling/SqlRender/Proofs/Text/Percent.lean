import SqlRender.Proofs.Text.Plain

/-!
# Reading percent signs

A driver whose placeholders are written with a percent sign reads a query from left to right and
knows nothing of quotes: a sign and an `s` are a placeholder, two signs stand for one, and any other
sign makes the query unreadable.

What is read of a text does not depend on what was read before it, unless that ended in a sign that
waits for its second character. So a text that never leaves a sign waiting (`Percent.Closed`) can be
read on its own.
-/

namespace SqlRender.Text.Percent

/-- Where a driver is, after a number of placeholders. -/
inductive Place where
  | text (placeholders : Nat)
  /-- After a sign that waits for its second character. -/
  | sign (placeholders : Nat)
  | unreadable
  deriving DecidableEq, Repr

/-- Where a character leads to. -/
def step : Place → Char → Place
  | .text n, c => if c = '%' then .sign n else .text n
  | .sign n, c => if c = 's' then .text (n + 1) else if c = '%' then .text n else .unreadable
  | .unreadable, _ => .unreadable

/-- Where characters lead to. -/
def read (place : Place) (cs : List Char) : Place :=
  cs.foldl step place

/-- The number of placeholders that a driver finds in a text, if it can read it. -/
def placeholders? (s : String) : Option Nat :=
  match read (.text 0) s.toList with
  | .text n => some n
  | _ => none

/-- A text after which no sign waits. -/
def Closed (s : String) : Prop :=
  ∀ n m, read (.text n) s.toList ≠ .sign m

theorem placeholders?_eq_some {s : String} {n : Nat} :
    placeholders? s = some n ↔ read (.text 0) s.toList = .text n := by
  unfold placeholders?
  split <;> simp_all

theorem read_append (place : Place) (xs ys : List Char) :
    read place (xs ++ ys) = read (read place xs) ys :=
  List.foldl_append

theorem read_unreadable (cs : List Char) : read .unreadable cs = .unreadable := by
  induction cs with
  | nil => rfl
  | cons c cs ih => exact ih

/-- The place with more placeholders before it. -/
def Place.after (n : Nat) : Place → Place
  | .text m => .text (n + m)
  | .sign m => .sign (n + m)
  | .unreadable => .unreadable

theorem step_after (n : Nat) (place : Place) (c : Char) :
    step (place.after n) c = (step place c).after n := by
  cases place with
  | text m =>
      simp only [Place.after, step]
      split <;> rfl
  | sign m =>
      simp only [Place.after, step]
      split
      · rfl
      · split <;> rfl
  | unreadable => rfl

/-- The placeholders before a text are counted on top of those in it. -/
theorem read_after (n : Nat) (place : Place) (cs : List Char) :
    read (place.after n) cs = (read place cs).after n := by
  induction cs generalizing place with
  | nil => rfl
  | cons c cs ih =>
      show read (step (place.after n) c) cs = (read (step place c) cs).after n
      rw [step_after, ih]

/-- After a closed text a driver has found the placeholders of the text, or cannot read on. -/
theorem Closed.read_eq {s : String} (h : Closed s) (n : Nat) :
    (∃ k, placeholders? s = some k ∧ read (.text n) s.toList = .text (n + k)) ∨
      (placeholders? s = none ∧ read (.text n) s.toList = .unreadable) := by
  have hread : read (.text n) s.toList = (read (.text 0) s.toList).after n :=
    read_after n (.text 0) s.toList
  rw [hread]
  unfold placeholders?
  cases hplace : read (.text 0) s.toList with
  | text k => exact .inl ⟨k, rfl, rfl⟩
  | sign m => exact absurd hplace (h 0 m)
  | unreadable => exact .inr ⟨rfl, rfl⟩

theorem Closed.append {s t : String} (hs : Closed s) (ht : Closed t) : Closed (s ++ t) := by
  intro n m hread
  rw [String.toList_append, read_append] at hread
  rcases hs.read_eq n with ⟨k, -, hk⟩ | ⟨-, hk⟩
  · rw [hk] at hread
    exact ht _ _ hread
  · rw [hk, read_unreadable] at hread
    cases hread

/-- A text that ends in a character other than a sign is closed, whatever is before it. -/
theorem closed_of_last {s : String} {cs : List Char} {c : Char} (h : s.toList = cs ++ [c])
    (hc : c ≠ '%') : Closed s := by
  intro n m hread
  rw [h, read_append] at hread
  change step (read (.text n) cs) c = .sign m at hread
  cases hplace : read (.text n) cs with
  | text k =>
      rw [hplace, step, if_neg hc] at hread
      cases hread
  | sign k =>
      rw [hplace, step, if_neg hc] at hread
      split at hread <;> cases hread
  | unreadable =>
      rw [hplace] at hread
      cases hread

theorem read_of_not_mem {cs : List Char} (h : '%' ∉ cs) (n : Nat) :
    read (.text n) cs = .text n := by
  induction cs with
  | nil => rfl
  | cons c cs ih =>
      rw [List.mem_cons, not_or] at h
      show read (step (.text n) c) cs = .text n
      rw [step, if_neg (Ne.symm h.1)]
      exact ih h.2

/-- A text without signs is closed. -/
theorem closed_of_not_mem {s : String} (h : '%' ∉ s.toList) : Closed s := by
  intro n m hread
  rw [read_of_not_mem h] at hread
  cases hread

theorem placeholders?_of_not_mem {s : String} (h : '%' ∉ s.toList) :
    placeholders? s = some 0 := by
  unfold placeholders?
  rw [read_of_not_mem h]

theorem not_mem_of_isPlain {s : String} (h : isPlain s = true) : '%' ∉ s.toList := by
  intro hmem
  have hplain := List.all_eq_true.1 h '%' hmem
  simp at hplain

end SqlRender.Text.Percent
