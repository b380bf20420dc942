import SqlRender.Proofs.Database.Filters
import SqlRender.Proofs.Render.Spacing
import SqlRender.Proofs.Render.Success

/-!
# Filters of upserts

An insertion that updates the rows that it finds there already may be particular about which of them
it updates. Of the two ways to write the conflict clause one has a place for such a filter and the
other has none. The main statement is `Database.upsert_filtered_iff`: the filter is in the text in
dialects of the first kind, and in those of the second kind everything is as it is without the
filter, warnings included.
-/

namespace SqlRender

/-- The query for a statement with the segments in place of its filter. -/
def RowChange.query (placeholder : Int → String) (c : RowChange) (filter : List Segment) :
    RenderedQuery where
  sql := c.text placeholder filter
  binds := Segment.values
    (Segment.joined " " true (Draft.segmentLists c.head) ++ filter ++
      Segment.joined " " false (Draft.segmentLists c.tail))

/-- The text with a filter is longer than the text without it. -/
theorem RowChange.query_filter_ne (placeholder : Int → String) (g : Grammar) (c : RowChange) :
    c.query placeholder (c.filter g) ≠ c.query placeholder [] := by
  intro h
  have hlength := Segment.length_write_insert placeholder 0
    (Segment.joined " " true (Draft.segmentLists c.head)) (c.filter g)
    (Segment.joined " " false (Draft.segmentLists c.tail))
  have hsql : c.text placeholder (c.filter g) = c.text placeholder [] :=
    congrArg RenderedQuery.sql h
  rw [RowChange.text, RowChange.text, List.append_nil] at hsql
  rw [hsql, RowChange.filter, Segment.textLength] at hlength
  have hspace : " ".length = 1 := rfl
  omega

/-! ## Insertions around the filter -/

/-- The words of a conflict clause before the assignments. -/
def conflictWords (g : Grammar) (targets : List Draft) : List Draft :=
  if g.upsertStyle = .onDuplicateKey then [.text "ON DUPLICATE KEY UPDATE"]
  else
    .text "ON CONFLICT" :: (if targets.isEmpty then [] else [.group targets]) ++
      [.text "DO UPDATE SET"]

/-- One of the two styles has a place for the filter. -/
theorem ConflictParts.draft_update {g : Grammar} {targets assignments : List Draft}
    {p : ConflictParts} (given : p.assignments = some assignments) (nonempty : assignments ≠ []) :
    p.draft g targets =
      .phrase (conflictWords g targets ++ [.join ", " assignments] ++
        if g.upsertStyle = .onDuplicateKey then [] else p.filter.toList.map (.clause "WHERE")) := by
  obtain ⟨d, ds, rfl⟩ := List.exists_cons_of_ne_nil nonempty
  rw [ConflictParts.draft, given, conflictWords]
  by_cases hstyle : g.upsertStyle = .onDuplicateKey
  · simp [hstyle]
  · simp [hstyle]

namespace Expr

/-- What an insertion does about conflicts if it updates the rows that are there already. -/
def updateOnConflict (targets assignments : List Expr) (filter : Expr) : Expr :=
  .node (.conflictStrategy targets (.node (.conflictAction (some assignments) filter)))

/-- An insertion around the filter of its conflict clause. -/
def upsert (g : Grammar) (i : Insert Expr) (targets assignments : List Expr) (filter : Expr) :
    RowChange where
  head := .text "INSERT" :: .text "INTO" :: (i.table.piece g).part ++
    (if i.columns.isEmpty then [] else [.group (Piece.drafts (i.columns.map (piece g)))]) ++
    (i.map (piece g)).source ++ conflictWords g (Piece.drafts (targets.map (piece g))) ++
    [.join ", " (Piece.drafts (assignments.map (piece g)))]
  predicate := filter
  tail := (i.returning.piece g).part

variable {g : Grammar} {i : Insert Expr} {targets assignments : List Expr} {filter : Expr}

theorem conflictParts_updateOnConflict :
    ((Expr.node (.conflictAction (some assignments) filter)).piece g).conflictParts =
      .ok (.ofPieces (some (assignments.map (piece g))) (filter.piece g)) := by
  rw [piece_node]
  rfl

/-- The conflict clause has a place for the filter in one of the two styles. -/
theorem draft_updateOnConflict (supported : g.upsertStyle ≠ .unsupported)
    (nonempty : assignments ≠ []) :
    (updateOnConflict targets assignments filter).draft g =
      .phrase (conflictWords g (Piece.drafts (targets.map (piece g))) ++
        [.join ", " (Piece.drafts (assignments.map (piece g)))] ++
        if g.upsertStyle = .onDuplicateKey then [] else (filter.piece g).clause "WHERE") := by
  have hdraft : (updateOnConflict targets assignments filter).draft g =
      Draft.conflictStrategy g (targets.map (piece g))
        ((Expr.node (.conflictAction (some assignments) filter)).piece g) := by
    rw [updateOnConflict, draft_node]
    rfl
  have hfilter : (ConflictParts.ofPieces (some (assignments.map (piece g)))
      (filter.piece g)).filter.toList.map (.clause "WHERE") = (filter.piece g).clause "WHERE" := by
    unfold ConflictParts.ofPieces Piece.clause
    split <;> rfl
  have hassignments : (ConflictParts.ofPieces (some (assignments.map (piece g)))
      (filter.piece g)).assignments = some (Piece.drafts (assignments.map (piece g))) := rfl
  rw [hdraft, Draft.conflictStrategy, if_neg supported, conflictParts_updateOnConflict]
  dsimp only
  rw [ConflictParts.draft_update hassignments (by simpa [Piece.drafts] using nonempty), hfilter]

/-- The early word is for insertions that ignore conflicting rows. -/
theorem ignoresEarly_updateOnConflict :
    ((updateOnConflict targets assignments filter).piece g).ignoresEarly = .ok false := by
  have hignores : ((updateOnConflict targets assignments filter).piece g).ignoresEarly =
      ((Expr.node (.conflictAction (some assignments) filter)).piece g).asksToIgnore g := by
    rw [updateOnConflict, piece_node]
    rfl
  rw [hignores, Piece.asksToIgnore, conflictParts_updateOnConflict]
  split <;> rfl

theorem draft_insert (strategy : i.strategy = updateOnConflict targets assignments filter) :
    (Expr.node (.insert i)).draft g =
      .phrase (.text "INSERT" :: .text "INTO" :: (i.table.piece g).part ++
        (if i.columns.isEmpty then [] else [.group (Piece.drafts (i.columns.map (piece g)))]) ++
        (i.map (piece g)).source ++ [(updateOnConflict targets assignments filter).draft g] ++
        (i.returning.piece g).part) := by
  have hpart : ((updateOnConflict targets assignments filter).piece g).part =
      [(updateOnConflict targets assignments filter).draft g] := by
    rw [draft, updateOnConflict, piece_node]
    rfl
  have hdraft : (Expr.node (.insert i)).draft g = (i.map (piece g)).draft := by
    rw [draft_node]
    rfl
  rw [hdraft, Insert.draft]
  have hstrategy : (i.map (piece g)).strategy =
      (updateOnConflict targets assignments filter).piece g := by
    rw [← strategy]
    rfl
  rw [hstrategy, ignoresEarly_updateOnConflict]
  dsimp only
  rw [hpart]
  simp [Draft.wordIf, Insert.map]

/-- What an insertion writes: the filter stands between the head and the rest, in dialects that have
a place for it. -/
theorem segments_upsert (strategy : i.strategy = updateOnConflict targets assignments filter)
    (supported : g.upsertStyle ≠ .unsupported) (nonempty : assignments ≠ []) :
    (Expr.node (.insert i)).segments g =
      Segment.joined " " true (Draft.segmentLists (upsert g i targets assignments filter).head) ++
        (if g.upsertStyle = .onDuplicateKey then []
          else (upsert g i targets assignments filter).filter? g) ++
        Segment.joined " " false
          (Draft.segmentLists (upsert g i targets assignments filter).tail) := by
  have hfilter : Draft.spaced ((filter.piece g).clause "WHERE") =
      (upsert g i targets assignments filter).filter? g :=
    joined_clause filter "WHERE"
  have hstyle : Draft.spaced (if g.upsertStyle = .onDuplicateKey then []
      else (filter.piece g).clause "WHERE") =
        if g.upsertStyle = .onDuplicateKey then []
        else (upsert g i targets assignments filter).filter? g := by
    split
    · rfl
    · exact hfilter
  let front := .text "INSERT" :: .text "INTO" :: (i.table.piece g).part ++
    (if i.columns.isEmpty then [] else [.group (Piece.drafts (i.columns.map (piece g)))]) ++
    (i.map (piece g)).source
  have hfront : front.all Draft.isBlank = false := by
    simp [front, Draft.isBlank_text]
  have hhead : Segment.joined " " true
      (Draft.segmentLists (upsert g i targets assignments filter).head) =
        Draft.segments (.phrase front) ++
          Draft.spaced (conflictWords g (Piece.drafts (targets.map (piece g))) ++
            [.join ", " (Piece.drafts (assignments.map (piece g)))]) := by
    rw [← Draft.segments_phrase_append hfront, ← List.append_assoc]
    rfl
  rw [segments, draft_insert strategy, draft_updateOnConflict supported nonempty, hhead, ← hstyle,
    List.append_assoc, Draft.segments_phrase_append hfront, Draft.spaced_append,
    Draft.spaced_phrase, Draft.spaced_append, ← List.append_assoc, ← List.append_assoc]
  rfl

/-- The query for an insertion has the filter of its conflict clause after the assignments, and
binds the values of the filter there. -/
def UpsertFilteredIn (d : Dialect) (i : Insert Expr) (q : RenderedQuery) : Prop :=
  ∃ targets assignments filter, i.strategy = updateOnConflict targets assignments filter ∧
    q = (upsert d.toGrammar i targets assignments filter).query d.placeholder
      ((upsert d.toGrammar i targets assignments filter).filter d.toGrammar)

/-- Where the conflict clause has no place for a filter, an insertion is drafted alike with another
filter or with none. -/
theorem draft_insert_other (style : g.upsertStyle = .onDuplicateKey) (nonempty : assignments ≠ [])
    (strategy : i.strategy = updateOnConflict targets assignments filter) (other : Expr) :
    (Expr.node (.insert
      { i with strategy := updateOnConflict targets assignments other })).draft g =
      (Expr.node (.insert i)).draft g := by
  have supported : g.upsertStyle ≠ .unsupported := by
    rw [style]
    decide
  rw [draft_insert strategy, draft_updateOnConflict supported nonempty, if_pos style,
    draft_insert (i := { i with strategy := updateOnConflict targets assignments other }) rfl,
    draft_updateOnConflict supported nonempty, if_pos style]
  rfl

end Expr

/-! ## Queries for insertions -/

namespace Database

variable {db : Database} {elapsed : Float} {i : Insert Expr} {targets assignments : List Expr}
  {filter : Expr} {q : RenderedQuery}

/-- The query for an insertion has the filter in it, if the dialect has a place for one and the
filter has text. -/
theorem query_upsert (builtin : db.dialect.IsBuiltin)
    (supported : db.dialect.upsertStyle ≠ .unsupported) (nonempty : assignments ≠ [])
    (strategy : i.strategy = Expr.updateOnConflict targets assignments filter)
    (h : (db.render elapsed (.node (.insert i))).outcome = .ok q) :
    q = (Expr.upsert db.dialect.toGrammar i targets assignments filter).query db.dialect.placeholder
      (if db.dialect.upsertStyle = .onDuplicateKey then []
        else (Expr.upsert db.dialect.toGrammar i targets assignments filter).filter?
          db.dialect.toGrammar) := by
  obtain ⟨hsql, hbinds⟩ := outcome_segments (fun n => builtin.placeholder_ne _) h
  rw [Expr.segments_upsert strategy supported nonempty] at hsql hbinds
  cases q
  exact congrArg₂ RenderedQuery.mk hsql hbinds

/-- **Filters of upserts.** If an insertion that updates rows on conflict is rendered, and its
filter has text in the dialect, then the filter and its values are in the conflict clause exactly in
dialects that say `ON CONFLICT`. In dialects that say `ON DUPLICATE KEY UPDATE` the whole report is
the same for every other filter and for none, so that nothing warns that the filter is gone. -/
theorem upsert_filtered_iff (builtin : db.dialect.IsBuiltin)
    (supported : db.dialect.upsertStyle ≠ .unsupported) (nonempty : assignments ≠ [])
    (strategy : i.strategy = Expr.updateOnConflict targets assignments filter)
    {elapsed' : Float} {text : RenderedQuery}
    (filterText : (db.render elapsed' filter).outcome = .ok text) (full : text.sql ≠ "")
    (h : (db.render elapsed (.node (.insert i))).outcome = .ok q) :
    (Expr.UpsertFilteredIn db.dialect i q ↔ db.dialect.upsertStyle = .onConflict) ∧
      (db.dialect.upsertStyle = .onDuplicateKey → ∀ other,
        db.render elapsed (.node (.insert
          { i with strategy := Expr.updateOnConflict targets assignments other })) =
        db.render elapsed (.node (.insert i))) := by
  have hquery := query_upsert builtin supported nonempty strategy h
  constructor
  · constructor
    · rintro ⟨targets', assignments', filter', strategy', hfiltered⟩
      cases strategy.symm.trans strategy'
      cases hstyle : db.dialect.upsertStyle with
      | onConflict => rfl
      | unsupported => exact absurd hstyle supported
      | onDuplicateKey =>
          rw [if_pos hstyle] at hquery
          exact absurd (hfiltered.symm.trans hquery) (RowChange.query_filter_ne _ _ _)
    · intro hstyle
      obtain ⟨hsql, -⟩ := outcome_segments (fun n => builtin.placeholder_ne _) filterText
      have hblank : Segment.areBlank (filter.segments db.dialect.toGrammar) = false := by
        refine eq_false_of_ne_true fun hblank => full ?_
        rw [hsql, Segment.write_eq_empty fun n => builtin.placeholder_ne _]
        exact hblank
      refine ⟨targets, assignments, filter, strategy, ?_⟩
      rw [hquery, hstyle, if_neg (by decide), RowChange.filter?]
      exact congrArg _ (if_neg (ne_true_of_eq_false hblank))
  · intro hstyle other
    have hrender : (Expr.node (.insert
        { i with strategy := Expr.updateOnConflict targets assignments other })).render db.dialect =
        (Expr.node (.insert i)).render db.dialect := by
      rw [Expr.render, Expr.render, Expr.draft_insert_other hstyle nonempty strategy]
    rw [render, render, hrender]

end Database

/-- A condition on a column. -/
def Expr.isSmall : Expr :=
  .node (.operation (.node (.identifier "a")) (.node (.keyword (.operator .lessThan)))
    (.node (.bind (.value (.int 5)))))

/-- An insertion that updates the row that is there already if it meets the condition. -/
def Expr.cautiousInsertion : Insert Expr where
  table := .node (.identifier "t")
  columns := [.node (.identifier "id")]
  rows := [[.node (.bind (.value (.int 1)))]]
  query := absent
  strategy := updateOnConflict [.node (.identifier "id")]
    [.node (.assignment (.node (.identifier "a")) (.node (.bind (.value (.int 2)))))] isSmall
  returning := absent

theorem Expr.draft_cautiousInsertion_sqlite :
    (Expr.node (.insert cautiousInsertion)).draft Dialect.sqlite.toGrammar =
      .phrase [.text "INSERT", .text "INTO", .text "\"t\"", .group [.text "\"id\""],
        .text "VALUES", .join ", " [.group [.bind (.int 1)]],
        .phrase [.text "ON CONFLICT", .group [.text "\"id\""], .text "DO UPDATE SET",
          .join ", " [.seq [.text "\"a\"", .text " = ", .bind (.int 2)]],
          .clause "WHERE" (.phrase [.text "\"a\"", .text "<", .bind (.int 5)])]] := by
  simp only [cautiousInsertion, isSmall, updateOnConflict, absent, draft, piece_node, piece_value,
    Node.map, Insert.map, List.map_cons, List.map_nil, Option.map_some]
  cbv

theorem Expr.draft_cautiousInsertion_mysql :
    (Expr.node (.insert cautiousInsertion)).draft Dialect.mysql.toGrammar =
      .phrase [.text "INSERT", .text "INTO", .text "`t`", .group [.text "`id`"], .text "VALUES",
        .join ", " [.group [.bind (.int 1)]],
        .phrase [.text "ON DUPLICATE KEY UPDATE",
          .join ", " [.seq [.text "`a`", .text " = ", .bind (.int 2)]]]] := by
  simp only [cautiousInsertion, isSmall, updateOnConflict, absent, draft, piece_node, piece_value,
    Node.map, Insert.map, List.map_cons, List.map_nil, Option.map_some]
  cbv

theorem Database.outcome_cautiousInsertion_sqlite :
    (Database.render { dialect := .sqlite } 0 (.node (.insert Expr.cautiousInsertion))).outcome =
      .ok ⟨"INSERT INTO \"t\" (\"id\") VALUES (?) ON CONFLICT (\"id\") " ++
        "DO UPDATE SET \"a\" = ? WHERE \"a\" < ?", [.int 1, .int 2, .int 5]⟩ := by
  rw [outcome_eq_ok_iff fun n => Dialect.isBuiltin_sqlite.placeholder_ne (n + 1), Expr.segments,
    Expr.draft_cautiousInsertion_sqlite]
  refine ⟨rfl, ?_, rfl⟩
  cbv

theorem Database.outcome_cautiousInsertion_mysql :
    (Database.render { dialect := .mysql } 0 (.node (.insert Expr.cautiousInsertion))).outcome =
        .ok ⟨"INSERT INTO `t` (`id`) VALUES (%s) ON DUPLICATE KEY UPDATE `a` = %s",
          [.int 1, .int 2]⟩ ∧
      (Database.render { dialect := .mysql } 0 (.node (.insert Expr.cautiousInsertion))).warnings =
        [] := by
  have visible (n : Nat) := Dialect.isBuiltin_mysql.placeholder_ne (n + 1)
  rw [warnings_eq visible, outcome_eq_ok_iff visible, Expr.segments,
    Expr.draft_cautiousInsertion_mysql]
  · refine ⟨⟨rfl, ?_, rfl⟩, rfl⟩
    simp [Draft.phrase, Draft.group, Draft.segments, Draft.segmentLists, Segment.joined,
      Segment.areBlank, Segment.isBlank, Segment.write, Separator.chunk, ← String.append_assoc]
    rfl
  · rw [Expr.draft_cautiousInsertion_mysql]
    rfl

/-- The condition is in the query for SQLite. It is gone in MySQL, without a warning. -/
theorem Database.upsert_filtered_iff_cautious :
    Expr.UpsertFilteredIn .sqlite Expr.cautiousInsertion
        ⟨"INSERT INTO \"t\" (\"id\") VALUES (?) ON CONFLICT (\"id\") " ++
          "DO UPDATE SET \"a\" = ? WHERE \"a\" < ?", [.int 1, .int 2, .int 5]⟩ ∧
      (Database.render { dialect := .mysql } 0 (.node (.insert Expr.cautiousInsertion))).outcome =
        .ok ⟨"INSERT INTO `t` (`id`) VALUES (%s) ON DUPLICATE KEY UPDATE `a` = %s",
          [.int 1, .int 2]⟩ ∧
      (Database.render { dialect := .mysql } 0 (.node (.insert Expr.cautiousInsertion))).warnings =
        [] ∧
      ¬ Expr.UpsertFilteredIn .mysql Expr.cautiousInsertion
        ⟨"INSERT INTO `t` (`id`) VALUES (%s) ON DUPLICATE KEY UPDATE `a` = %s",
          [.int 1, .int 2]⟩ := by
  have smallInSqlite : (Database.render { dialect := .sqlite } 0 Expr.isSmall).outcome =
      .ok ⟨"\"a\" < ?", [.int 5]⟩ := by
    simp only [Database.outcome_eq, Expr.isSmall, Expr.render, Expr.draft, Expr.piece_node,
      Node.map]
    cbv
  have smallInMysql : (Database.render { dialect := .mysql } 0 Expr.isSmall).outcome =
      .ok ⟨"`a` < %s", [.int 5]⟩ := by
    simp only [Database.outcome_eq, Expr.isSmall, Expr.render, Expr.draft, Expr.piece_node,
      Node.map]
    cbv
  obtain ⟨hmysql, hquiet⟩ := Database.outcome_cautiousInsertion_mysql
  have kept := Database.upsert_filtered_iff Dialect.isBuiltin_sqlite (by decide)
    (List.cons_ne_nil _ _) rfl smallInSqlite (by decide) Database.outcome_cautiousInsertion_sqlite
  have lost := Database.upsert_filtered_iff Dialect.isBuiltin_mysql (by decide)
    (List.cons_ne_nil _ _) rfl smallInMysql (by decide) hmysql
  exact ⟨kept.1.2 rfl, hmysql, hquiet, fun h => by cases lost.1.1 h⟩

end SqlRender
