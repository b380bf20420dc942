import Mathlib
import SqlRender.Dialect.Builtin
import SqlRender.Expr.Build
import SqlRender.Proofs.Render.Running

/-!
# Segments

What a draft writes, told without placeholders: a list of segments, each a text that is fixed or a
value that a placeholder will stand for. The list is read off the draft alone, so it knows neither
the placeholders nor what was rendered before.

The main statement is `Expr.render_appends`: a rendering that ends well appends the segments in
order, the values among them are the values that it binds, and each is numbered by its place. What
makes this more than bookkeeping is that text is put aside, looked at and sometimes dropped while
the values bound meanwhile stay. A dropped text is empty, and a text with a placeholder in it never
is, so whatever is dropped binds nothing (`Segment.values_eq_nil`).
-/

namespace SqlRender

/-- A fixed text, or a value that a placeholder stands for. -/
inductive Segment where
  | text (s : String)
  | value (v : Value)

namespace Segment

variable {placeholder : Int → String}

/-- The text of segments after `bound` values: a value is written as the placeholder of its
position. -/
def write (placeholder : Int → String) (bound : Nat) : List Segment → String
  | [] => ""
  | .text s :: rest => s ++ write placeholder bound rest
  | .value _ :: rest => placeholder (bound + 1) ++ write placeholder (bound + 1) rest

/-- The values among segments. -/
def values : List Segment → List Value
  | [] => []
  | .text _ :: rest => values rest
  | .value v :: rest => v :: values rest

/-- Whether a segment is no text at all. A value never is blank. -/
def isBlank : Segment → Bool
  | .text s => s.isEmpty
  | .value _ => false

/-- Whether segments have no text, however values are written. -/
def areBlank (segments : List Segment) : Bool :=
  segments.all isBlank

theorem values_append (xs ys : List Segment) : values (xs ++ ys) = values xs ++ values ys := by
  induction xs with
  | nil => rfl
  | cons x xs ih => cases x <;> simp [values, ih]

/-- The second part is numbered after the values of the first. -/
theorem write_append (bound : Nat) (xs ys : List Segment) :
    write placeholder bound (xs ++ ys) =
      write placeholder bound xs ++ write placeholder (bound + (values xs).length) ys := by
  induction xs generalizing bound with
  | nil => simp [write, values]
  | cons x xs ih =>
      cases x with
      | text s => simp [write, values, ih, String.append_assoc]
      | value v =>
          have shift : bound + 1 + (values xs).length = bound + ((values xs).length + 1) := by omega
          simp [write, values, ih, String.append_assoc, shift]

theorem values_eq_nil {segments : List Segment} (h : areBlank segments = true) :
    values segments = [] := by
  induction segments with
  | nil => rfl
  | cons x xs ih =>
      cases x with
      | text s =>
          simp only [areBlank, List.all_cons, Bool.and_eq_true] at h
          exact ih h.2
      | value v => simp [areBlank, isBlank] at h

/-- With placeholders that are never empty, segments have no text exactly if they are blank. -/
theorem write_eq_empty (visible : ∀ n : Nat, placeholder (n + 1) ≠ "") (bound : Nat)
    (segments : List Segment) :
    write placeholder bound segments = "" ↔ areBlank segments = true := by
  induction segments generalizing bound with
  | nil => simp [write, areBlank]
  | cons x xs ih =>
      cases x with
      | text s =>
          simp only [write, String.append_eq_empty_iff, ih, areBlank, List.all_cons, isBlank,
            Bool.and_eq_true, String.isEmpty_iff]
      | value v =>
          simp only [write, String.append_eq_empty_iff, areBlank, List.all_cons, isBlank,
            Bool.false_and, Bool.false_eq_true, iff_false, not_and]
          intro hp
          exact absurd hp (visible bound)

/-- Items with a separator before all but the first that has text. Blank items are left out. -/
def joined (separator : String) (first : Bool) : List (List Segment) → List Segment
  | [] => []
  | item :: items =>
    if areBlank item then joined separator first items
    else (if first then [] else [.text separator]) ++ item ++ joined separator false items

/-- Whether the second part begins with a separator depends on whether the first has text. -/
theorem joined_append (separator : String) (first : Bool) (xs ys : List (List Segment)) :
    joined separator first (xs ++ ys) =
      joined separator first xs ++ joined separator (first && xs.all areBlank) ys := by
  induction xs generalizing first with
  | nil => simp [joined]
  | cons x xs ih =>
      rw [List.cons_append, joined, joined, List.all_cons]
      split
      · rename_i blank
        rw [ih, blank, Bool.true_and]
      · rename_i full
        rw [ih, eq_false_of_ne_true full, Bool.false_and, Bool.and_false, ← List.append_assoc]

end Segment

/-- The text of a separator. What is no text is not among the chunks of a text. -/
def Separator.chunk : Separator → String
  | .text s => s
  | .stray _ => ""

namespace Draft

mutual

/-- What a draft writes if it ends well. -/
def segments : Draft → List Segment
  | .text s => [.text s]
  | .bind value => [.value value]
  | .stray _ | .warn _ | .fail _ => []
  | .seq parts => (segmentLists parts).flatten
  | .join separator items => Segment.joined separator.chunk true (segmentLists items)
  | .clause keyword body =>
    if Segment.areBlank (segments body) then [] else .text (keyword ++ " ") :: segments body

/-- What each of several drafts writes. -/
def segmentLists : List Draft → List (List Segment)
  | [] => []
  | d :: ds => segments d :: segmentLists ds

end

theorem segmentLists_eq (ds : List Draft) : segmentLists ds = ds.map segments := by
  induction ds with
  | nil => rfl
  | cons d ds ih => rw [segmentLists, ih, List.map_cons]

end Draft

/-- What an expression writes in a grammar. -/
def Expr.segments (g : Grammar) (e : Expr) : List Segment :=
  (e.draft g).segments

/-- The second state is the first with the segments appended: their text to the text, numbered after
the values that were bound already, and their values to the values. -/
structure Serializer.Appended (placeholder : Int → String) (segments : List Segment)
    (s t : Serializer) : Prop where
  sql : t.sql = s.sql ++ Segment.write placeholder s.binds.length segments
  binds : t.binds = s.binds ++ Segment.values segments

namespace Serializer.Appended

variable {placeholder : Int → String} {s t u : Serializer} {xs ys : List Segment}

theorem nil (s : Serializer) : Appended placeholder [] s s :=
  ⟨by simp [Segment.write], by simp [Segment.values]⟩

theorem append (first : Appended placeholder xs s t) (second : Appended placeholder ys t u) :
    Appended placeholder (xs ++ ys) s u where
  sql := by
    rw [second.sql, first.sql, first.binds, List.length_append, Segment.write_append,
      String.append_assoc]
  binds := by
    rw [second.binds, first.binds, Segment.values_append, List.append_assoc]

/-- What was rendered with its text put aside is appended once that text is written, with fixed
text before it. No value may be bound in between. -/
theorem of_aside {before text : String} (bound : t.binds = s.binds ++ Segment.values xs)
    (kept : t.sql = s.sql) (aside : text = Segment.write placeholder s.binds.length xs)
    (written : u.sql = t.sql ++ (before ++ text)) (unbound : u.binds = t.binds) :
    Appended placeholder (.text before :: xs) s u where
  sql := by rw [written, kept, aside, Segment.write]
  binds := by rw [unbound, bound, Segment.values]

/-- Fixed text that is empty does not count. -/
theorem of_empty (h : Appended placeholder (.text "" :: xs) s t) : Appended placeholder xs s t :=
  ⟨by simpa [Segment.write] using h.sql, h.binds⟩

end Serializer.Appended

open Rendering Serializer

/-- A text on its own is a segment. -/
theorem Rendering.appended_of_write {placeholder : Int → String} {text : String}
    {s t : Serializer} {u : Unit} (h : write text s = .ok u t) :
    Appended placeholder [.text text] s t := by
  obtain ⟨hsql, hbinds⟩ := sql_of_write h
  exact ⟨by simp [hsql, Segment.write], by simp [hbinds, Segment.values]⟩

/-- What a render gives is the text that its body appends, numbered after the values that were bound
before; the values are bound for good, and nothing is written. -/
theorem Rendering.render_spec {placeholder : Int → String} {body : Rendering Unit}
    {segments : List Segment}
    (hbody : ∀ s t, body s = .ok () t → Appended placeholder segments s t)
    {s t : Serializer} {text : String} (h : render body s = .ok text t) :
    text = Segment.write placeholder s.binds.length segments ∧ t.sql = s.sql ∧
      t.binds = s.binds ++ Segment.values segments := by
  obtain ⟨u, hu, htext, rfl⟩ := render_eq_ok.1 h
  have happ := hbody _ _ hu
  obtain ⟨-, rfl⟩ := Written.text_eq_ok.1 htext
  refine ⟨?_, rfl, happ.binds⟩
  have hsql := happ.sql
  rw [Serializer.sql_nil, String.empty_append] at hsql
  exact hsql

theorem Separator.sql_of_write {separator : Separator} {s t : Serializer} {u : Unit}
    (h : separator.write s = .ok u t) : t.sql = s.sql ++ separator.chunk ∧ t.binds = s.binds := by
  cases separator with
  | text text => exact Rendering.sql_of_write h
  | stray typeName =>
      cases h
      exact ⟨by simp [chunk, Serializer.sql], rfl⟩

namespace Draft

variable {placeholder : Int → String}

/-- A text that was put aside is empty exactly if nothing but blanks went into it. -/
theorem aside_isEmpty (visible : ∀ n : Nat, placeholder (n + 1) ≠ "") {text : String}
    {bound : Nat} {segments : List Segment}
    (h : text = Segment.write placeholder bound segments) :
    text.isEmpty = Segment.areBlank segments := by
  rw [Bool.eq_iff_iff, String.isEmpty_iff, h, Segment.write_eq_empty visible]

mutual

/-- A draft that ends well appends its segments. -/
theorem run_appends (visible : ∀ n : Nat, placeholder (n + 1) ≠ "") (d : Draft)
    (s t : Serializer) (h : d.run placeholder s = .ok () t) :
    Appended placeholder d.segments s t := by
  cases d with
  | text text => exact appended_of_write h
  | stray typeName =>
      cases h
      exact ⟨by simp [segments, Segment.write, Serializer.sql], by simp [segments, Segment.values]⟩
  | bind value =>
      obtain ⟨hsql, hbinds⟩ := sql_of_write h
      refine ⟨?_, by simpa [segments, Segment.values] using hbinds⟩
      rw [hsql, segments, Segment.write, Segment.write, String.append_empty]
      rfl
  | warn warning =>
      cases h
      exact ⟨by simp [segments, Segment.write, Serializer.sql], by simp [segments, Segment.values]⟩
  | fail fault => exact absurd h throw_ne_ok
  | seq parts => exact runAll_appends visible parts s t h
  | join separator items => exact runJoined_appends visible separator true items s t h
  | clause keyword body =>
      rw [run, bind_eq_ok] at h
      obtain ⟨text, u, hrender, hwrite⟩ := h
      obtain ⟨htext, hsql, hbinds⟩ := render_spec (run_appends visible body) hrender
      rw [aside_isEmpty visible htext] at hwrite
      rw [segments]
      split at hwrite
      · -- the body has no text, and so it binds nothing that would be lost with it
        rename_i blank
        rw [pure_eq_ok] at hwrite
        rw [if_pos blank, ← hwrite.2]
        exact ⟨by simp [hsql, Segment.write],
          by simp [hbinds, Segment.values_eq_nil blank, Segment.values]⟩
      · rename_i full
        rw [if_neg full]
        obtain ⟨hsql', hbinds'⟩ := sql_of_write hwrite
        exact .of_aside hbinds hsql htext hsql' hbinds'

theorem runAll_appends (visible : ∀ n : Nat, placeholder (n + 1) ≠ "") (ds : List Draft)
    (s t : Serializer) (h : runAll placeholder ds s = .ok () t) :
    Appended placeholder (segmentLists ds).flatten s t := by
  cases ds with
  | nil =>
      rw [runAll, pure_eq_ok] at h
      rw [← h.2]
      exact .nil s
  | cons d ds =>
      rw [runAll, bind_eq_ok] at h
      obtain ⟨⟨⟩, u, hfirst, hrest⟩ := h
      exact (run_appends visible d s u hfirst).append (runAll_appends visible ds u t hrest)

theorem runJoined_appends (visible : ∀ n : Nat, placeholder (n + 1) ≠ "")
    (separator : Separator) (first : Bool) (ds : List Draft)
    (s t : Serializer) (h : runJoined placeholder separator.write first ds s = .ok () t) :
    Appended placeholder (Segment.joined separator.chunk first (segmentLists ds)) s t := by
  cases ds with
  | nil =>
      rw [runJoined, pure_eq_ok] at h
      rw [← h.2]
      exact .nil s
  | cons d ds =>
      rw [runJoined, bind_eq_ok] at h
      obtain ⟨text, u, hrender, hrest⟩ := h
      obtain ⟨htext, hsql, hbinds⟩ := render_spec (run_appends visible d) hrender
      rw [aside_isEmpty visible htext] at hrest
      rw [segmentLists, Segment.joined]
      split at hrest
      · rename_i blank
        have hnone : u.binds = s.binds := by simpa [Segment.values_eq_nil blank] using hbinds
        have happ := runJoined_appends visible separator first ds u t hrest
        rw [if_pos blank]
        exact ⟨by rw [happ.sql, hsql, hnone], by rw [happ.binds, hnone]⟩
      · rename_i full
        rw [if_neg full]
        cases first with
        | true =>
            obtain ⟨⟨⟩, v, hwrite, hrest⟩ := bind_eq_ok.1 hrest
            obtain ⟨hsql', hbinds'⟩ := sql_of_write hwrite
            have hitem : Appended placeholder d.segments s v :=
              .of_empty (.of_aside hbinds hsql htext (by rw [hsql', String.empty_append]) hbinds')
            exact hitem.append (runJoined_appends visible separator false ds v t hrest)
        | false =>
            obtain ⟨⟨⟩, v, hseparator, hrest⟩ := bind_eq_ok.1 hrest
            obtain ⟨⟨⟩, w, hwrite, hrest⟩ := bind_eq_ok.1 hrest
            obtain ⟨hsqlv, hbindsv⟩ := Separator.sql_of_write hseparator
            obtain ⟨hsqlw, hbindsw⟩ := sql_of_write hwrite
            have hitem : Appended placeholder (.text separator.chunk :: d.segments) s w :=
              .of_aside hbinds hsql htext (by rw [hsqlw, hsqlv, String.append_assoc])
                (hbindsw.trans hbindsv)
            exact hitem.append (runJoined_appends visible separator false ds w t hrest)

end

end Draft

/-- **Values and placeholders agree.** A rendering that ends well, after whatever was rendered
before, appends the segments of the expression: the `k`-th value among them is written as the
placeholder `k` places after those that were written already, and the values are bound in this order
with none besides. The segments know the grammar of the dialect and nothing of its placeholders,
which only must not be empty. -/
theorem Expr.render_appends (d : Dialect) (visible : ∀ n : Nat, d.placeholder (n + 1) ≠ "")
    (e : Expr) (s t : Serializer) (h : e.render d s = .ok () t) :
    t.sql = s.sql ++ Segment.write d.placeholder s.binds.length (e.segments d.toGrammar) ∧
      t.binds = s.binds ++ Segment.values (e.segments d.toGrammar) := by
  have happ := Draft.run_appends visible (e.draft d.toGrammar) s t h
  exact ⟨happ.sql, happ.binds⟩

/-- A query with values at several depths, among parts that have no text. -/
def Expr.nestedQuery : Expr :=
  .node (.select
    { columns := [.all]
      tables := [.node (.identifier "t")]
      predicate := .node (.operation
        (.node (.between (.node (.identifier "a")) (.node (.bind (.value (.int 1))))
          (.node (.bind (.value (.int 2))))))
        (.node (.keyword (.operator .and)))
        (.node (.group [.node (.bind (.value (.int 3))), .node (.bind (.value (.int 4)))])))
      having := .node (.raw "")
      orderBy := [.node (.raw ""), .node (.clause "NULLS" (.node (.bind (.value (.int 5)))))]
      locking := .value .null })

theorem Expr.render_appends_nested :
    (∀ n : Nat, Dialect.postgresql.placeholder (n + 1) ≠ "") ∧
      ∃ t, nestedQuery.render .postgresql ⟨⟨["SET x = $1; "], none⟩, [.null], []⟩ = .ok () t ∧
        t.sql = "SET x = $1; " ++
          "SELECT * FROM \"t\" WHERE \"a\" BETWEEN $2 AND $3 AND ($4, $5) ORDER BY NULLS $6" ∧
        t.binds = [.null] ++ [.int 1, .int 2, .int 3, .int 4, .int 5] := by
  have visible : ∀ n : Nat, Dialect.postgresql.placeholder (n + 1) ≠ "" := by
    intro n
    simp [Dialect.postgresql, Placeholder.dollar]
  have ends : nestedQuery.render .postgresql ⟨⟨["SET x = $1; "], none⟩, [.null], []⟩ =
      .ok () ⟨⟨["SET x = $1; ", "SELECT", " ", "*", " ", "FROM \"t\"", " ",
          "WHERE \"a\" BETWEEN $2 AND $3 AND ($4, $5)", " ", "ORDER BY NULLS $6"], none⟩,
        [.null, .int 1, .int 2, .int 3, .int 4, .int 5], []⟩ := by
    simp only [nestedQuery, all, render, draft, piece, fold_node, fold_value, Node.map, Select.map,
      List.map_cons, List.map_nil]
    cbv
  obtain ⟨sql, binds⟩ := render_appends .postgresql visible nestedQuery _ _ ends
  refine ⟨visible, _, ends, ?_, ?_⟩
  · rw [sql]
    simp only [nestedQuery, all, segments, draft, piece, fold_node, fold_value, Node.map,
      Select.map, List.map_cons, List.map_nil]
    cbv
  · rw [binds]
    simp only [nestedQuery, all, segments, draft, piece, fold_node, fold_value, Node.map,
      Select.map, List.map_cons, List.map_nil]
    cbv

end SqlRender
