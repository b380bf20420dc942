import SqlRender.Proofs.Database.Report
import SqlRender.Proofs.Expr.Vanishing

/-!
# Filters of changes

An update or a deletion without a filter changes every row. A filter that is there in one dialect
should not be gone in another without a warning. It is gone without one exactly if the predicate
vanishes in that dialect: `Database.filter_kept`. Predicates of portable nodes never do.
-/

namespace SqlRender

/-! ## Statements around a filter -/

/-- A statement around its filter: what goes before the filter, its predicate, and the rest. -/
structure RowChange where
  head : List Draft
  predicate : Expr
  tail : List Draft

namespace RowChange

/-- The text of the statement with the segments in place of its filter. -/
def text (placeholder : Int → String) (c : RowChange) (filter : List Segment) : String :=
  Segment.write placeholder 0
    (Segment.joined " " true (Draft.segmentLists c.head) ++ filter ++
      Segment.joined " " false (Draft.segmentLists c.tail))

/-- The filter after a space: the word and the predicate. -/
def filter (g : Grammar) (c : RowChange) : List Segment :=
  .text " " :: .text "WHERE " :: c.predicate.segments g

/-- The filter, if the predicate has text. -/
def filter? (g : Grammar) (c : RowChange) : List Segment :=
  if Segment.areBlank (c.predicate.segments g) then [] else c.filter g

end RowChange

namespace Expr

/-- An update or a deletion around its filter. -/
def rowChange? (g : Grammar) : Expr → Option RowChange
  | .node (.update u) =>
    some
      { head := (u.withTables.piece g).part ++ .text "UPDATE" :: (u.table.piece g).part ++
          Draft.listClause "SET" (Piece.drafts (u.values.map (piece g)))
        predicate := u.predicate
        tail := (u.returning.piece g).part }
  | .node (.delete d) =>
    some
      { head := (d.withTables.piece g).part ++ .text "DELETE FROM" :: (d.table.piece g).part
        predicate := d.predicate
        tail := (d.returning.piece g).part }
  | _ => none

/-- The predicate of an update or a deletion. -/
def predicate? : Expr → Option Expr
  | .node (.update u) => some u.predicate
  | .node (.delete d) => some d.predicate
  | _ => none

/-- The text of a change of rows has its filter in it, and the predicate has text. -/
def FilteredIn (d : Dialect) (e : Expr) (sql : String) : Prop :=
  ∃ c, e.rowChange? d.toGrammar = some c ∧
    Segment.areBlank (c.predicate.segments d.toGrammar) = false ∧
    sql = c.text d.placeholder (c.filter d.toGrammar)

/-- The text of a change of rows has no filter in it, so the change is one of all rows. -/
def UnfilteredIn (d : Dialect) (e : Expr) (sql : String) : Prop :=
  ∃ c, e.rowChange? d.toGrammar = some c ∧ sql = c.text d.placeholder []

variable {g : Grammar}

theorem rowChange?_of_predicate? {e p : Expr} (h : e.predicate? = some p) (g : Grammar) :
    ∃ c, e.rowChange? g = some c ∧ c.predicate = p := by
  unfold predicate? at h
  split at h
  · exact ⟨_, rfl, Option.some.inj h⟩
  · exact ⟨_, rfl, Option.some.inj h⟩
  · cases h

/-- A statement is a phrase of what goes before its filter, which has text, the filter and the
rest. -/
theorem draft_rowChange {e : Expr} {c : RowChange} (h : e.rowChange? g = some c) :
    e.draft g = .phrase (c.head ++ (c.predicate.piece g).clause "WHERE" ++ c.tail) ∧
      c.head.all Draft.isBlank = false := by
  unfold rowChange? at h
  split at h
  · cases h
    rw [draft_node]
    exact ⟨rfl, by simp [Draft.isBlank_text]⟩
  · cases h
    rw [draft_node]
    exact ⟨rfl, by simp [Draft.isBlank_text]⟩
  · cases h

/-- What a clause adds to a phrase that has text already: the word and the body, if it has text. -/
theorem joined_clause (e : Expr) (keyword : String) :
    Segment.joined " " false (Draft.segmentLists ((e.piece g).clause keyword)) =
      if Segment.areBlank (e.segments g) then []
      else .text " " :: .text (keyword ++ " ") :: e.segments g := by
  unfold Piece.clause
  split
  · rename_i habsent
    rw [isAbsent_piece] at habsent
    rw [segments_of_isNull habsent]
    rfl
  · rw [Draft.segmentLists_eq, List.map_cons, List.map_nil, Segment.joined, Segment.joined,
      List.append_nil]
    change (if Draft.isBlank (.clause keyword (e.draft g)) then _ else _) = _
    rw [Draft.isBlank_clause]
    split
    · rename_i hblank
      exact (if_pos hblank).symm
    · rename_i hfull
      have hwritten : Draft.segments (.clause keyword (e.draft g)) =
          .text (keyword ++ " ") :: e.segments g := if_neg hfull
      exact (congrArg (Segment.text " " :: ·) hwritten).trans (if_neg hfull).symm

/-- What a statement writes: its filter stands between the head and the rest, if the predicate has
text. -/
theorem segments_rowChange {e : Expr} {c : RowChange} (h : e.rowChange? g = some c) :
    e.segments g =
      Segment.joined " " true (Draft.segmentLists c.head) ++ c.filter? g ++
        Segment.joined " " false (Draft.segmentLists c.tail) := by
  obtain ⟨hdraft, hhead⟩ := draft_rowChange h
  have hfilter : Segment.joined " " false
      (Draft.segmentLists ((c.predicate.piece g).clause "WHERE")) = c.filter? g :=
    joined_clause c.predicate "WHERE"
  rw [← Draft.all_isBlank] at hhead
  simp only [Draft.segmentLists_eq] at hfilter hhead ⊢
  rw [segments, hdraft, Draft.phrase, Draft.segments, Draft.segmentLists_eq, List.map_append,
    List.map_append, Segment.joined_append, Segment.joined_append, List.all_append, hhead,
    Bool.false_and, Bool.and_false, ← hfilter]
  rfl

end Expr

/-! ## Renderings of statements -/

namespace Database

variable {db : Database} {elapsed : Float} {e : Expr} {q : RenderedQuery}

/-- The text of a statement has its filter in it, if the predicate has text. -/
theorem sql_rowChange (builtin : db.dialect.IsBuiltin)
    (h : (db.render elapsed e).outcome = .ok q) {c : RowChange}
    (hc : e.rowChange? db.dialect.toGrammar = some c) :
    q.sql = c.text db.dialect.placeholder (c.filter? db.dialect.toGrammar) := by
  obtain ⟨hsql, -⟩ := outcome_segments (fun n => builtin.placeholder_ne _) h
  rw [hsql, Expr.segments_rowChange hc, RowChange.text]

/-- A query that comes without a warning has nothing in it that warns or fails. -/
theorem isSilent_draft (h : (db.render elapsed e).outcome = .ok q)
    (quiet : (db.render elapsed e).warnings = []) :
    (e.draft db.dialect.toGrammar).isSilent = true := by
  obtain ⟨s, hrun, htext, -⟩ := outcome_eq_ok.1 h
  have hwarnings : (db.render elapsed e).warnings = s.warnings := by
    have hending := congrArg Prod.snd (db.render_ending elapsed e)
    rw [hrun] at hending
    exact hending
  have hsilent := Draft.run_silent _ _ _ hrun (Written.text_eq_ok.1 htext).1
  exact hsilent.2 (hwarnings.symm.trans quiet)

/-- A predicate that is given and has no text vanishes, if the statement comes without a
warning. -/
theorem vanishes_of_unfiltered (builtin : db.dialect.IsBuiltin)
    (h : (db.render elapsed e).outcome = .ok q) (quiet : (db.render elapsed e).warnings = [])
    {c : RowChange} (hc : e.rowChange? db.dialect.toGrammar = some c)
    (given : c.predicate.isNull = false)
    (blank : Segment.areBlank (c.predicate.segments db.dialect.toGrammar) = true) :
    c.predicate.Vanishes db.dialect.toGrammar := by
  -- the whole statement is silent, and with it the predicate
  have hsilent := isSilent_draft h quiet
  have hpresent : (c.predicate.piece db.dialect.toGrammar).isAbsent = false := by
    rw [Expr.isAbsent_piece, given]
  rw [(Expr.draft_rowChange hc).1, Draft.phrase, Draft.isSilent, Draft.allSilent_eq,
    List.all_append, List.all_append, Piece.clause, hpresent] at hsilent
  have hpredicate : (c.predicate.piece db.dialect.toGrammar).draft.isSilent = true := by
    simp only [Bool.and_eq_true] at hsilent
    simpa [Draft.isSilent] using hsilent.1.2
  exact (Expr.isMute_draft builtin.worded _).1 (Draft.isMute_of_isBlank hpredicate blank)

/-- A statement has its filter exactly if the predicate has text. -/
theorem filteredIn_iff (builtin : db.dialect.IsBuiltin)
    (h : (db.render elapsed e).outcome = .ok q) {c : RowChange}
    (hc : e.rowChange? db.dialect.toGrammar = some c) :
    e.FilteredIn db.dialect q.sql ↔
      Segment.areBlank (c.predicate.segments db.dialect.toGrammar) = false := by
  constructor
  · rintro ⟨c', hc', hfull, -⟩
    cases hc.symm.trans hc'
    exact hfull
  · intro hfull
    refine ⟨c, hc, hfull, ?_⟩
    rw [sql_rowChange builtin h hc, RowChange.filter?, hfull]
    rfl

/-- **Filters are kept.** A change of rows that has its filter in one dialect has it in another one
too, or there is a warning, or the predicate vanishes in that dialect and not in the first. Where
the predicate vanishes the change is one of all rows. A predicate that consists of portable nodes
vanishes in all dialects or in none. -/
theorem filter_kept_or_vanishes {db db' : Database} (builtin : db.dialect.IsBuiltin)
    (builtin' : db'.dialect.IsBuiltin) {e p : Expr} (change : e.predicate? = some p)
    {elapsed elapsed' : Float} {q q' : RenderedQuery}
    (h : (db.render elapsed e).outcome = .ok q) (h' : (db'.render elapsed' e).outcome = .ok q')
    (filtered : e.FilteredIn db.dialect q.sql) :
    (e.FilteredIn db'.dialect q'.sql ∨ (db'.render elapsed' e).warnings ≠ [] ∨
        p.Vanishes db'.dialect.toGrammar ∧ ¬ p.Vanishes db.dialect.toGrammar) ∧
      (p.Vanishes db'.dialect.toGrammar → e.UnfilteredIn db'.dialect q'.sql) ∧
      ((p.Everywhere fun x => x.isPortable = true) →
        e.FilteredIn db'.dialect q'.sql ∨ (db'.render elapsed' e).warnings ≠ []) := by
  obtain ⟨c, hc, rfl⟩ := Expr.rowChange?_of_predicate? change db.dialect.toGrammar
  obtain ⟨c', hc', hsame⟩ := Expr.rowChange?_of_predicate? change db'.dialect.toGrammar
  rw [filteredIn_iff builtin h hc] at filtered
  rw [filteredIn_iff builtin' h' hc', hsame]
  have given : c.predicate.isNull = false := by
    refine eq_false_of_ne_true fun hnull => ?_
    rw [Expr.segments_of_isNull hnull] at filtered
    cases filtered
  -- the filter has text in the first dialect, so the predicate does not vanish there
  have kept : ¬ c.predicate.Vanishes db.dialect.toGrammar := fun hvanishes => by
    rw [hvanishes.areBlank builtin.worded] at filtered
    cases filtered
  have lost (hquiet : (db'.render elapsed' e).warnings = [])
      (hblank : Segment.areBlank (c.predicate.segments db'.dialect.toGrammar) = true) :
      c.predicate.Vanishes db'.dialect.toGrammar := by
    rw [← hsame] at given hblank ⊢
    exact vanishes_of_unfiltered builtin' h' hquiet hc' given hblank
  have hfirst : Segment.areBlank (c.predicate.segments db'.dialect.toGrammar) = false ∨
      (db'.render elapsed' e).warnings ≠ [] ∨
      c.predicate.Vanishes db'.dialect.toGrammar ∧ ¬ c.predicate.Vanishes db.dialect.toGrammar := by
    by_cases hquiet : (db'.render elapsed' e).warnings = []
    · cases hblank : Segment.areBlank (c.predicate.segments db'.dialect.toGrammar) with
      | false => exact .inl rfl
      | true => exact .inr (.inr ⟨lost hquiet hblank, kept⟩)
    · exact .inr (.inl hquiet)
  refine ⟨hfirst, fun hvanishes => ⟨c', hc', ?_⟩, fun portable => ?_⟩
  · rw [sql_rowChange builtin' h' hc', RowChange.filter?, hsame,
      hvanishes.areBlank builtin'.worded]
    rfl
  · rcases hfirst with hfull | hwarned | ⟨hvanishes, -⟩
    · exact .inl hfull
    · exact .inr hwarned
    · exact absurd (hvanishes.of_portable portable _) kept

end Database

/-- A deletion of the rows that have something under a key of a JSON column. -/
def Expr.keyedDeletion (key : String) : Expr :=
  .node (.delete
    { table := .node (.identifier "t")
      predicate := .node (.subpath (.node (.identifier "c")) [.text key])
      returning := absent
      withTables := absent })

/-- A filter that is there in SQLite and gone in the baseline, which has no words for JSON keys. -/
theorem Database.filter_kept_or_vanishes_keyed :
    (Database.render { dialect := .sqlite } 0 (Expr.keyedDeletion "a")).outcome =
        .ok ⟨"DELETE FROM \"t\" WHERE json_extract(\"c\", '$.a')", []⟩ ∧
      (Database.render { dialect := .generic } 0 (Expr.keyedDeletion "a")).outcome =
        .ok ⟨"DELETE FROM \"t\"", []⟩ ∧
      (Database.render { dialect := .generic } 0 (Expr.keyedDeletion "a")).warnings = [] ∧
      (Expr.keyedDeletion "a").UnfilteredIn .generic "DELETE FROM \"t\"" := by
  have kept : (Database.render { dialect := .sqlite } 0 (Expr.keyedDeletion "a")).outcome =
      .ok ⟨"DELETE FROM \"t\" WHERE json_extract(\"c\", '$.a')", []⟩ := by
    simp only [Database.outcome_eq, Expr.keyedDeletion, Expr.absent, Expr.render, Expr.draft,
      Expr.piece_node, Expr.piece_value, Node.map, Delete.map]
    cbv
  have lost : Rendering.ending ((Expr.keyedDeletion "a").render .generic {}) =
      (.ok ⟨"DELETE FROM \"t\"", []⟩, []) := by
    simp only [Expr.keyedDeletion, Expr.absent, Expr.render, Expr.draft,
      Expr.piece_node, Expr.piece_value, Node.map, Delete.map]
    cbv
  have hending := Database.render_ending { dialect := .generic } 0 (Expr.keyedDeletion "a")
  rw [lost, Prod.mk.injEq] at hending
  have builtin : Dialect.sqlite.IsBuiltin := Dialect.isBuiltin_of_mem (by simp [Dialect.builtin])
  have builtin' : Dialect.generic.IsBuiltin := Dialect.isBuiltin_of_mem (by simp [Dialect.builtin])
  have filtered : (Expr.keyedDeletion "a").FilteredIn .sqlite
      "DELETE FROM \"t\" WHERE json_extract(\"c\", '$.a')" := by
    refine (Database.filteredIn_iff builtin kept rfl).2 ?_
    simp only [Expr.segments, Expr.draft, Expr.piece_node, Node.map]
    cbv
  have hkept := Database.filter_kept_or_vanishes builtin builtin' rfl kept hending.1 filtered
  exact ⟨kept, hending.1, hending.2, hkept.2.1 (.node rfl (List.forall_mem_nil _))⟩

end SqlRender
