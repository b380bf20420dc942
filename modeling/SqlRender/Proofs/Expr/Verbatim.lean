import SqlRender.Expr.Basic
import SqlRender.Proofs.Text.Plain

/-!
# The texts of a tree

Where the texts come from that a tree writes besides the fixed words of queries: some are written as
they are, and the others are quoted.
-/

namespace SqlRender

/-- What is shown for a number of rows that is none. -/
def Outline.countText : Outline → List String
  | .value .null | .value (.int _) => []
  | o => [o.display]

/-- A number of rows is written as a number, unless it is none. -/
theorem Outline.mem_countText_or_number {o : Outline} {n : String}
    (h : (match o with
      | .value .null => none
      | o => some o.display) = some n) : n ∈ o.countText ∨ ∃ i : Int, n = toString i := by
  have shown {o : Outline} (h : some o.display = some n) : n ∈ [o.display] := by
    cases h
    exact List.mem_singleton_self _
  cases o with
  | value v =>
      cases v with
      | null => cases h
      | int i =>
          cases h
          exact .inr ⟨i, rfl⟩
      | _ => exact .inl (shown h)
  | _ => exact .inl (shown h)

theorem Outline.mem_countText_or_isPlain {o : Outline} {n : String}
    (h : (match o with
      | .value .null => none
      | o => some o.display) = some n) : n ∈ o.countText ∨ Text.isPlain n = true := by
  rcases mem_countText_or_number h with hmem | ⟨i, rfl⟩
  · exact .inl hmem
  · exact .inr (Text.isPlain_intToString i)

/-- The texts at the root of an expression that are written as they are: raw text, the names of
functions, separators, the texts of numbers, the words of clauses, and what else stands where a
number or an expression is expected. -/
def Expr.verbatim : Expr → List String
  | .value (.text s) => [s]
  | .node (.raw (.text s)) => [s]
  | .node (.literal ⟨.numeric, .value (.text s)⟩) => [s]
  | .node (.list _ (.text s)) => [s]
  | .node (.call (.text s) _) => [s]
  | .node (.clause word _) => [word.display]
  | .node (.select s) => s.limit.countText ++ s.offset.countText
  | .node (.union u) => u.limit.countText ++ u.offset.countText
  | _ => []

/-- The text of a wording, if it is one. -/
def Wording.text? : Wording → Option String
  | .text s => some s
  | .other _ => none

/-- The texts at the root of an expression that are quoted: names, text literals and keys. -/
def Expr.quotedTexts : Expr → List String
  | .node (.identifier (.text s)) => [s]
  | .node (.literal ⟨.string, .value (.text s)⟩) => [s]
  | .node (.subpath _ path) => path.filterMap Wording.text?
  | _ => []

theorem Wording.eq_of_ofOutline {o : Outline} {s : String} (h : Wording.ofOutline o = .text s) :
    o = .value (.text s) := by
  unfold ofOutline at h
  split at h
  · rw [Wording.text.inj h]
  · cases h

/-- Wordings that all are texts are those texts. -/
theorem Wording.filterMap_text? {position : Nat} {ws : List Wording} {texts : List String}
    (h : Wording.texts position ws = .ok texts) : ws.filterMap Wording.text? = texts := by
  induction ws generalizing position texts with
  | nil =>
      cases h
      rfl
  | cons w ws ih =>
      cases w with
      | other o => cases h
      | text s =>
          rw [Wording.texts] at h
          cases hrest : Wording.texts (position + 1) ws with
          | error fault =>
              rw [hrest] at h
              cases h
          | ok rest =>
              rw [hrest] at h
              cases h
              rw [List.filterMap_cons, Wording.text?, ih hrest]

end SqlRender
