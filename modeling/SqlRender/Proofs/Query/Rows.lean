import Mathlib
import SqlRender.Dialect.Builtin
import SqlRender.Expr.Build
import SqlRender.Proofs.Query.Sentence
import SqlRender.Proofs.Render.Growth

/-!
# The rows of an insertion

The values of the rows of an insertion are bound in the order in which they are written, so that the
placeholder of an entry has the position of its value (`Insert.render_rows`). The rows may have any
lengths, and a row without values is an empty pair of parentheses. What holds of one row, after
whatever was bound before it, is `Insert.renderAll_row`; the rows follow by induction, each starting
where the one before it ended.
-/

namespace SqlRender

open Rendering

namespace Insert

variable {placeholder : Int → String} {d : Dialect}

/-! ## Texts of rows -/

/-- The placeholders of so many values that are bound after `start` others. -/
def placeholders (placeholder : Int → String) (start count : Nat) : List String :=
  (List.range count).map fun j => placeholder (start + j + 1 : Nat)

/-- A row in parentheses, of so many values that are bound after `start` others. -/
def rowText (placeholder : Int → String) (start count : Nat) : String :=
  "(" ++ ", ".intercalate (placeholders placeholder start count) ++ ")"

/-- Rows of the given lengths. A row starts after `start` values and those of the rows before it. -/
def rowTexts (placeholder : Int → String) (start : Nat) (lengths : List Nat) : List String :=
  lengths.mapIdx fun i count => rowText placeholder (start + (lengths.take i).sum) count

theorem placeholders_succ (start count : Nat) :
    placeholders placeholder start (count + 1) =
      placeholder (start + 1 : Nat) :: placeholders placeholder (start + 1) count := by
  unfold placeholders
  rw [List.range_succ_eq_map, List.map_cons, List.map_map]
  refine congrArg _ (List.map_congr_left fun j _ => ?_)
  show placeholder (start + (j + 1) + 1 : Nat) = placeholder (start + 1 + j + 1 : Nat)
  rw [Nat.add_right_comm start 1 j, Nat.add_assoc start j 1]

theorem rowTexts_cons (start count : Nat) (lengths : List Nat) :
    rowTexts placeholder start (count :: lengths) =
      rowText placeholder start count :: rowTexts placeholder (start + count) lengths := by
  unfold rowTexts
  rw [List.mapIdx_cons]
  refine congrArg _ (List.mapIdx_eq_mapIdx_iff.2 fun i _ => ?_)
  rw [List.take_succ_cons, List.sum_cons, Nat.add_assoc]

theorem rowText_ne_empty (start count : Nat) : rowText placeholder start count ≠ "" := by
  simp [rowText]

theorem full_placeholders (visible : ∀ n : Nat, placeholder (n + 1) ≠ "") (start count : Nat) :
    Text.full (placeholders placeholder start count) = placeholders placeholder start count := by
  refine Text.full_eq_self fun text hmem => ?_
  obtain ⟨j, -, rfl⟩ := List.mem_map.1 hmem
  exact visible (start + j)

theorem full_rowTexts (start : Nat) (lengths : List Nat) :
    Text.full (rowTexts placeholder start lengths) = rowTexts placeholder start lengths := by
  refine Text.full_eq_self fun text hmem => ?_
  obtain ⟨i, hi, rfl⟩ := List.mem_mapIdx.1 hmem
  exact rowText_ne_empty _ _

/-! ## What is bound -/

/-- An entry of a row stands behind the rows before it and the entries before it. -/
theorem getElem?_flatten {α : Type} {rows : List (List α)} {i j : Nat} {row : List α} {value : α}
    (hrow : rows[i]? = some row) (hvalue : row[j]? = some value) :
    rows.flatten[((rows.map List.length).take i).sum + j]? = some value := by
  obtain ⟨hi, rfl⟩ := List.getElem?_eq_some_iff.1 hrow
  obtain ⟨hj, -⟩ := List.getElem?_eq_some_iff.1 hvalue
  rw [← List.getElem?_drop, List.drop_sum_flatten, List.drop_eq_getElem_cons hi,
    List.flatten_cons, List.getElem?_append_left hj, hvalue]

/-- A bound value renders to the placeholder of its position. -/
theorem render_bind (value : Value) (s : Serializer) :
    render (Draft.run placeholder (.bind value)) s =
      .ok (placeholder (s.binds.length + 1 : Nat)) { s with binds := s.binds ++ [value] } := by
  rw [render_eq, Draft.run, writeBind]
  obtain ⟨w, hwrite, htext⟩ := exists_written (placeholder (s.binds.length + 1))
    { s with written := {}, binds := s.binds ++ [value] }
  rw [hwrite, finish, htext]
  simp [Written.text, Except.map]

/-- The values of a row are bound in turn. -/
theorem renderAll_row (values : List Value) (s : Serializer) :
    Draft.renderAll placeholder (values.map Draft.bind) s =
      .ok (placeholders placeholder s.binds.length values.length)
        { s with binds := s.binds ++ values } := by
  induction values generalizing s with
  | nil =>
      rw [List.append_nil]
      rfl
  | cons value values ih =>
      rw [List.map_cons, Draft.renderAll_cons, bind_of_ok (render_bind value s),
        bind_of_ok (ih _), List.length_cons, placeholders_succ]
      simp
      rfl

/-- The rows are bound in turn, each in its own parentheses. -/
theorem renderAll_rows (visible : ∀ n : Nat, placeholder (n + 1) ≠ "") (rows : List (List Value))
    (s : Serializer) :
    Draft.renderAll placeholder (rows.map fun row => .group (row.map .bind)) s =
      .ok (rowTexts placeholder s.binds.length (rows.map List.length))
        { s with binds := s.binds ++ rows.flatten } := by
  induction rows generalizing s with
  | nil =>
      rw [List.flatten_nil, List.append_nil]
      rfl
  | cons row rows ih =>
      have hrow : render (Draft.run placeholder (.group (row.map .bind))) s =
          .ok (rowText placeholder s.binds.length row.length)
            { s with binds := s.binds ++ row } := by
        rw [Draft.render_group, map_of_ok (renderAll_row row s), rowText, Text.joinFull,
          full_placeholders visible]
      rw [List.map_cons, Draft.renderAll_cons, bind_of_ok hrow, bind_of_ok (ih _), List.map_cons,
        rowTexts_cons, List.flatten_cons]
      simp
      rfl

/-! ## The text of an insertion -/

/-- Whether the strategy asks for the early word, or the fault of a strategy that cannot tell. -/
def early (d : Dialect) (strategy : Expr) : Rendering Bool :=
  match (strategy.piece d.toGrammar).ignoresEarly with
  | .ok ignores => pure ignores
  | .error fault => throw fault

/-- The words and names before the rows. -/
def opening (d : Dialect) (ignores : Bool) (table : String) (columns : List String) :
    List String :=
  "INSERT" :: (if ignores then ["IGNORE"] else []) ++ ["INTO", d.quoteIdentifier table] ++
    if columns.isEmpty then []
    else ["(" ++ Text.joinFull ", " (columns.map d.quoteIdentifier) ++ ")"]

/-- What an insertion binds of entries that are no expressions. -/
def bound (rows : List (List Expr)) : List (List Value) :=
  rows.map (·.map (·.outline.bound))

/-- The text of an insertion of rows: the texts of its parts with spaces between them, rendered in
the order in which they stand. -/
def sentence (d : Dialect) (table : String) (columns : List String) (rows : List (List Expr))
    (strategy returning : Expr) : Rendering String := do
  let ignores ← early d strategy
  let groups ← Draft.renderAll d.placeholder ((bound rows).map fun row => .group (row.map .bind))
  let conflict ← strategy.partText d
  let given ← returning.partText d
  return Text.joinFull " "
    (opening d ignores table columns ++ ["VALUES", Text.joinFull ", " groups, conflict, given])

/-- An insertion into a table and columns that are given by name. -/
def named (table : String) (columns : List String) (rows : List (List Expr))
    (query strategy returning : Expr) : Expr :=
  Expr.insert ⟨table, columns.map fun name => .value (.text name), rows, query, strategy, returning⟩

/-- The names of the columns are in parentheses, if there are any. -/
theorem fullTexts_columns (columns : List String) :
    Draft.fullTexts d.placeholder
        (if columns.isEmpty then []
        else [.group ((columns.map d.quoteIdentifier).map Draft.text)]) =
      pure (Text.full
        (if columns.isEmpty then []
        else ["(" ++ Text.joinFull ", " (columns.map d.quoteIdentifier) ++ ")"])) := by
  cases columns.isEmpty with
  | true => rfl
  | false =>
      rw [if_neg Bool.false_ne_true, if_neg Bool.false_ne_true, Draft.fullTexts_single,
        Draft.render_group, Draft.renderAll_texts, map_pure, map_pure]

/-- What the parts of an insertion of rows without expressions are drafted to. -/
structure Drafted (g : Grammar) (table : String) (columns : List String) (rows : List (List Expr))
    (strategy returning : Expr) (i : Insert Piece) : Prop where
  table : i.table.part = [.text (g.quoteIdentifier table)]
  columns : Piece.drafts i.columns = (columns.map g.quoteIdentifier).map .text
  rows : i.rows.map (fun row => Draft.group (Piece.drafts row)) =
    (bound rows).map fun row => .group (row.map .bind)
  strategy : i.strategy = strategy.piece g
  returning : i.returning = returning.piece g

section Rows

variable (table : String) (columns : List String) {rows : List (List Expr)}
  (query strategy returning : Expr)

theorem exists_drafted (plain : ∀ row ∈ rows, ∀ e ∈ row, e.isRenderable = false) (g : Grammar) :
    ∃ i : Insert Piece, (named table columns rows query strategy returning).draft g = i.draft ∧
      i.Drafted g table columns rows strategy returning := by
  have hentry (row : List Expr) (hrow : row ∈ rows) :
      Piece.drafts ((row.map Expr.orBind).map (Expr.piece g)) =
        (row.map (·.outline.bound)).map Draft.bind := by
    rw [Piece.drafts, List.map_map, List.map_map, List.map_map]
    refine List.map_congr_left fun e he => ?_
    show (e.orBind.piece g).draft = _
    rw [Expr.orBind, plain row hrow e he]
    rfl
  refine ⟨_, by rw [Expr.draft, named, Expr.insert, Expr.piece_node]; rfl, rfl, ?_, ?_, rfl, rfl⟩
  · show Piece.drafts (((columns.map fun name => Expr.value (.text name)).map
      Expr.orIdentifier).map (Expr.piece g)) = _
    rw [Piece.drafts, List.map_map, List.map_map, List.map_map, List.map_map]
    rfl
  · show ((rows.map (·.map Expr.orBind)).map (·.map (Expr.piece g))).map _ = _
    rw [bound, List.map_map, List.map_map, List.map_map]
    exact List.map_congr_left fun row hrow => congrArg Draft.group (hentry row hrow)

/-- An insertion of rows without expressions renders to its sentence. -/
theorem render_sentence (some : rows ≠ [])
    (plain : ∀ row ∈ rows, ∀ e ∈ row, e.isRenderable = false) :
    Rendering.render ((named table columns rows query strategy returning).render d) =
      sentence d table columns rows strategy returning := by
  obtain ⟨i, hdraft, hi⟩ :=
    exists_drafted table columns query strategy returning plain d.toGrammar
  have hrows : i.rows.isEmpty = false := by
    have hmap := congrArg List.isEmpty hi.rows
    rw [List.isEmpty_map, List.isEmpty_map, bound, List.isEmpty_map] at hmap
    rw [hmap]
    simpa using some
  have hcolumns : i.columns.isEmpty = columns.isEmpty := by
    have hmap := congrArg List.isEmpty hi.columns
    simpa [Piece.drafts] using hmap
  have hwords (ignores : Bool) : .text "INSERT" :: Draft.wordIf ignores "IGNORE" ++
        [.text "INTO", .text (d.quoteIdentifier table)] =
      ("INSERT" :: (if ignores then ["IGNORE"] else []) ++
        ["INTO", d.quoteIdentifier table]).map Draft.text := by
    cases ignores <;> rfl
  rw [Expr.render, hdraft, draft, hi.strategy, sentence, early]
  cases (strategy.piece d.toGrammar).ignoresEarly with
  | error fault => rfl
  | ok ignores =>
      have hopening : .text "INSERT" :: Draft.wordIf ignores "IGNORE" ++
            .text "INTO" :: i.table.part ++
            (if i.columns.isEmpty then [] else [.group (Piece.drafts i.columns)]) =
          ("INSERT" :: (if ignores then ["IGNORE"] else []) ++
              ["INTO", d.quoteIdentifier table]).map Draft.text ++
            if columns.isEmpty then []
            else [.group ((columns.map d.quoteIdentifier).map Draft.text)] := by
        rw [← hwords, hi.table, hi.columns, hcolumns]
      have hsource : i.source = [.text "VALUES"] ++
          [.join ", " ((bound rows).map fun row => .group (row.map .bind))] := by
        rw [source, hrows, hi.rows]
        rfl
      show render (Draft.run _ (.phrase _)) = _
      rw [hopening, hsource, hi.returning, Draft.render_phrase]
      have hword : Draft.fullTexts d.placeholder [.text "VALUES"] = pure (Text.full ["VALUES"]) :=
        Draft.fullTexts_words ["VALUES"]
      have hgroups (groups : List Draft) : Draft.fullTexts d.placeholder [.join ", " groups] =
          (fun texts => Text.full [Text.joinFull ", " texts]) <$>
            Draft.renderAll d.placeholder groups := by
        rw [Draft.fullTexts_single, Draft.render_join, Functor.map_map]
      simp only [Draft.fullTexts_append, Draft.fullTexts_words, fullTexts_columns,
        Expr.fullTexts_part, hword, hgroups]
      -- both sides render the same in turn, and differ in how the texts are put together
      simp only [opening, Text.joinFull, bind_assoc, pure_bind, bind_map_left, map_bind, map_pure,
        bind_pure_comp, Functor.map_map, ← Text.full_append, List.append_assoc]
      rfl

/-- Nothing but texts is written by an insertion. -/
theorem named_isTextual (rows : List (List Expr)) :
    IsTextual ((named table columns rows query strategy returning).render d) := by
  rw [Expr.render, Expr.draft, named, Expr.insert, Expr.piece_node]
  show IsTextual ((Insert.draft (Insert.map (Expr.piece d.toGrammar) _)).run _)
  unfold Insert.draft
  split
  · rintro s t a ⟨⟩
  · exact Draft.phrase_isTextual _

end Rows

/-! ## The end of an insertion -/

theorem early_eq_ok {strategy : Expr} {ignores : Bool} {s t : Serializer} :
    early d strategy s = .ok ignores t ↔
      (strategy.piece d.toGrammar).ignoresEarly = .ok ignores ∧ s = t := by
  unfold early
  cases (strategy.piece d.toGrammar).ignoresEarly with
  | ok b =>
      rw [pure_eq_ok]
      simp
  | error fault =>
      constructor
      · intro h
        exact absurd h throw_ne_ok
      · rintro ⟨h, -⟩
        cases h

/-- How what stands after the rows is rendered: the clause on conflicts, and then the columns that
are given back. -/
structure Ending (d : Dialect) (strategy returning : Expr) (start : Serializer) where
  ignores : Bool
  conflict : String
  given : String
  middle : Serializer
  last : Serializer
  early_eq : (strategy.piece d.toGrammar).ignoresEarly = .ok ignores
  conflict_eq : strategy.partText d start = .ok conflict middle
  given_eq : returning.partText d middle = .ok given last

/-- A part of a phrase only adds values. -/
theorem partText_grows (e : Expr) : Rendering.Grows (e.partText d) := by
  rcases e.part_cases d with rfl | ⟨s, rfl⟩ | ⟨-, htext⟩
  · exact .pure _
  · exact .pure _
  · rw [htext]
    exact .render (e.render_grows d)

theorem Ending.exists_binds {strategy returning : Expr} {start : Serializer}
    (ending : Ending d strategy returning start) :
    (∃ own, ending.middle.binds = start.binds ++ own) ∧
      ∃ own, ending.last.binds = ending.middle.binds ++ own := by
  have hmiddle := (partText_grows (d := d) strategy start).binds
  rw [ending.conflict_eq] at hmiddle
  have hlast := (partText_grows (d := d) returning ending.middle).binds
  rw [ending.given_eq] at hlast
  obtain ⟨own, hown⟩ := hmiddle
  obtain ⟨own', hown'⟩ := hlast
  exact ⟨⟨own, hown.symm⟩, ⟨own', hown'.symm⟩⟩

/-! ## Rows and their end -/

theorem length_bound (rows : List (List Expr)) :
    (bound rows).map List.length = rows.map List.length := by
  rw [bound, List.map_map]
  exact List.map_congr_left fun row _ => List.length_map _

/-- The value of an entry stands behind those of the rows before it and of the entries before it. -/
theorem getElem?_bound {rows : List (List Expr)} {i j : Nat} {row : List Expr} {entry : Expr}
    (hrow : rows[i]? = some row) (hentry : row[j]? = some entry) :
    (bound rows).flatten[((rows.map List.length).take i).sum + j]? =
      some entry.outline.bound := by
  have hvalues : (bound rows)[i]? = some (row.map (·.outline.bound)) := by
    rw [bound, List.getElem?_map, hrow]
    rfl
  have hvalue : (row.map (·.outline.bound))[j]? = some entry.outline.bound := by
    rw [List.getElem?_map, hentry]
    rfl
  rw [← length_bound]
  exact getElem?_flatten hvalues hvalue

section Runs

variable {d : Dialect} (visible : ∀ n : Nat, d.placeholder (n + 1) ≠ "") {table : String}
  {columns : List String} {rows : List (List Expr)} (nonempty : rows ≠ [])
  (plain : ∀ row ∈ rows, ∀ e ∈ row, e.isRenderable = false) {query strategy returning : Expr}
  {before : Serializer}

include visible

theorem renderAll_bound :
    Draft.renderAll d.placeholder ((bound rows).map fun row => .group (row.map .bind)) before =
      .ok (rowTexts d.placeholder before.binds.length (rows.map List.length))
        { before with binds := before.binds ++ (bound rows).flatten } := by
  rw [renderAll_rows visible, length_bound]

include nonempty plain

/-- The ending of an insertion fixes what the whole of it renders to. -/
theorem render_of_ending
    (ending : Ending d strategy returning
      { before with binds := before.binds ++ (bound rows).flatten }) :
    Rendering.render ((named table columns rows query strategy returning).render d) before =
      .ok (Text.joinFull " " (opening d ending.ignores table columns ++
        ["VALUES", ", ".intercalate
          (rowTexts d.placeholder before.binds.length (rows.map List.length)),
          ending.conflict, ending.given])) ending.last := by
  have hearly : early d strategy before = .ok ending.ignores before :=
    early_eq_ok.2 ⟨ending.early_eq, rfl⟩
  have hgroups (lengths : List Nat) :
      Text.joinFull ", " (rowTexts d.placeholder before.binds.length lengths) =
        ", ".intercalate (rowTexts d.placeholder before.binds.length lengths) := by
    rw [Text.joinFull, full_rowTexts]
  rw [render_sentence table columns query strategy returning nonempty plain, sentence,
    bind_of_ok hearly, bind_of_ok (renderAll_bound visible), bind_of_ok ending.conflict_eq,
    bind_of_ok ending.given_eq, hgroups]
  rfl

/-- An insertion that is rendered has an ending. -/
theorem exists_ending {after : Serializer}
    (run : (named table columns rows query strategy returning).render d before = .ok () after) :
    Nonempty (Ending d strategy returning
      { before with binds := before.binds ++ (bound rows).flatten }) := by
  have textual := named_isTextual (d := d) table columns query strategy returning rows
  obtain ⟨text, u, hrender, -⟩ := exists_render (Expr.render_isLocal d _) textual run
  rw [render_sentence table columns query strategy returning nonempty plain, sentence,
    bind_eq_ok] at hrender
  obtain ⟨ignores, s, hearly, hrender⟩ := hrender
  obtain ⟨hignores, rfl⟩ := early_eq_ok.1 hearly
  rw [bind_of_ok (renderAll_bound visible), bind_eq_ok] at hrender
  obtain ⟨conflict, middle, hconflict, hrender⟩ := hrender
  obtain ⟨given, last, hgiven, -⟩ := bind_eq_ok.1 hrender
  exact ⟨⟨ignores, conflict, given, middle, last, hignores, hconflict, hgiven⟩⟩

end Runs

/-- **Rows and values.** Where the placeholders of a dialect have a text, an insertion of rows whose
entries are no expressions is rendered exactly if what stands after the rows is, after whatever was
rendered before. Its text has one group for each row in order, with a placeholder for each entry
whose position counts the values bound before the insertion, the entries of the rows before and the
entries before in the row. The values are those of the rows, row by row, followed only by those of
the clause on conflicts and then those of the columns given back, so that the value at the position
of an entry is that entry. -/
theorem render_rows (d : Dialect) (visible : ∀ n : Nat, d.placeholder (n + 1) ≠ "")
    (table : String) (columns : List String) (rows : List (List Expr)) (nonempty : rows ≠ [])
    (plain : ∀ row ∈ rows, ∀ e ∈ row, e.isRenderable = false) (query strategy returning : Expr)
    (before : Serializer) :
    let statement := named table columns rows query strategy returning
    let start : Serializer := { before with binds := before.binds ++ (bound rows).flatten }
    ((∃ after, statement.render d before = .ok () after) ↔
        Nonempty (Ending d strategy returning start)) ∧
      ∀ (ending : Ending d strategy returning start) (after : Serializer),
        statement.render d before = .ok () after →
          after.sql = before.sql ++ Text.joinFull " " (opening d ending.ignores table columns ++
              ["VALUES", ", ".intercalate
                (rowTexts d.placeholder before.binds.length (rows.map List.length)),
                ending.conflict, ending.given]) ∧
            (∃ ofConflict ofReturning,
              ending.middle.binds = start.binds ++ ofConflict ∧
                ending.last.binds = ending.middle.binds ++ ofReturning ∧
                after.binds =
                  before.binds ++ (bound rows).flatten ++ ofConflict ++ ofReturning) ∧
            ∀ (i j : Nat) (row : List Expr) (entry : Expr), rows[i]? = some row →
              row[j]? = some entry →
                after.binds[before.binds.length + ((rows.map List.length).take i).sum + j]? =
                  some entry.outline.bound := by
  intro statement start
  have hrender (ending : Ending d strategy returning start) :=
    @render_of_ending d visible table columns rows nonempty plain query strategy returning before
      ending
  refine ⟨⟨?_, ?_⟩, ?_⟩
  · rintro ⟨after, run⟩
    exact exists_ending visible nonempty plain run
  · rintro ⟨ending⟩
    obtain ⟨after, run, -⟩ := exists_run (Expr.render_isLocal d _) (hrender ending)
    exact ⟨after, run⟩
  · intro ending after run
    obtain ⟨after', run', hsql, hbinds, -⟩ :=
      exists_run (Expr.render_isLocal d _) (hrender ending)
    obtain rfl : after = after' := by
      rw [run] at run'
      injection run'
    obtain ⟨⟨ofConflict, hconflict⟩, ⟨ofReturning, hreturning⟩⟩ := ending.exists_binds
    have hall :
        after.binds = before.binds ++ (bound rows).flatten ++ ofConflict ++ ofReturning := by
      rw [hbinds, hreturning, hconflict]
    refine ⟨hsql, ⟨ofConflict, ofReturning, hconflict, hreturning, hall⟩, ?_⟩
    intro i j row entry hrow hentry
    have hvalue := getElem?_bound hrow hentry
    obtain ⟨hlt, -⟩ := List.getElem?_eq_some_iff.1 hvalue
    rw [hall, List.append_assoc, List.append_assoc, Nat.add_assoc,
      List.getElem?_append_right (Nat.le_add_right _ _), Nat.add_sub_cancel_left,
      List.getElem?_append_left hlt, hvalue]

/-- What is done when a row is there already: one of its columns gets a value. -/
def overwrite : Expr :=
  Expr.conflictStrategy [.value (.text "id")]
    (Expr.conflictAction (some [Expr.assignment (.value (.text "name")) (.value (.text "x"))]))

/-- Three rows of different lengths, the second of which is empty. -/
def uneven : List (List Expr) :=
  [[.value (.int 1), .value (.text "a")], [], [.value (.int 2)]]

/-- The placeholder of the third row follows those of the first, and those of the clause on
conflicts and of the columns given back follow them all. -/
theorem render_rows_uneven :
    (∀ n : Nat, Dialect.postgresql.placeholder (n + 1) ≠ "") ∧ uneven ≠ [] ∧
      (∀ row ∈ uneven, ∀ e ∈ row, e.isRenderable = false) ∧
      ∃ after,
        (named "t" ["id", "name"] uneven .absent overwrite
            (Expr.returning [.node (.bind (.value .null))])).render .postgresql
            { binds := [.int 7] } = .ok () after ∧
          after.sql = "INSERT INTO \"t\" (\"id\", \"name\") VALUES ($2, $3), (), ($4) " ++
            "ON CONFLICT (\"id\") DO UPDATE SET \"name\" = $5 RETURNING $6" ∧
          after.binds = [.int 7, .int 1, .text "a", .int 2, .text "x", .null] ∧
          after.binds[1 + 2 + 0]? = some (.int 2) := by
  have visible : ∀ n : Nat, Dialect.postgresql.placeholder (n + 1) ≠ "" := by
    intro n
    simp [Dialect.postgresql, Placeholder.dollar]
  have plain : ∀ row ∈ uneven, ∀ e ∈ row, e.isRenderable = false := by decide
  have run : (named "t" ["id", "name"] uneven .absent overwrite
      (Expr.returning [.node (.bind (.value .null))])).render .postgresql { binds := [.int 7] } =
      .ok () ⟨⟨["INSERT", " ", "INTO", " ", "\"t\"", " ", "(\"id\", \"name\")", " ", "VALUES", " ",
        "($2, $3), (), ($4)", " ", "ON CONFLICT (\"id\") DO UPDATE SET \"name\" = $5", " ",
        "RETURNING $6"], none⟩, [.int 7, .int 1, .text "a", .int 2, .text "x", .null], []⟩ := by
    simp only [named, overwrite, uneven, Expr.insert, Expr.conflictStrategy, Expr.conflictAction,
      Expr.assignment, Expr.returning, Expr.orColumn, Expr.column, Expr.orBind, Expr.bind,
      Expr.isRenderable, Expr.orIdentifier, Expr.absent, Expr.render, Expr.draft, Expr.piece_node,
      Expr.piece_value, Node.map, Insert.map, List.map_cons, List.map_nil, Bool.false_eq_true,
      if_false, Option.map_some]
    cbv
  obtain ⟨ends, aligned⟩ := render_rows .postgresql visible "t" ["id", "name"] uneven
    (List.cons_ne_nil _ _) plain .absent overwrite (Expr.returning [.node (.bind (.value .null))])
    { binds := [.int 7] }
  obtain ⟨ending⟩ := ends.1 ⟨_, run⟩
  obtain ⟨-, -, hentry⟩ := aligned ending _ run
  exact ⟨visible, List.cons_ne_nil _ _, plain, _, run, by decide +kernel, rfl,
    hentry 2 0 [.value (.int 2)] (.value (.int 2)) rfl rfl⟩

end Insert

end SqlRender
