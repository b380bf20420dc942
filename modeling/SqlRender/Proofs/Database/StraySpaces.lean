import SqlRender.Proofs.Database.Report
import SqlRender.Proofs.Tidiness.Tree

/-!
# Stray spaces

The text of a query has no space at its ends and no two in a row as long as no node leaves a gap,
that is, writes a space of its own next to a part without text. A gap always shows: what has one at
its root has a space at one end, and so a selection of nothing else is not tidy.
-/

namespace SqlRender

open Text

namespace Draft

/-- What parts add to a phrase is nothing, or begins with a space. -/
theorem write_spaced (placeholder : Int → String) (bound : Nat) (ds : List Draft) :
    Segment.write placeholder bound (spaced ds) = "" ∨
      (Segment.write placeholder bound (spaced ds)).toList.head? = some ' ' := by
  cases hblank : ds.all isBlank with
  | true =>
      rw [spaced_eq_nil hblank]
      exact .inl rfl
  | false =>
      rw [spaced, Segment.joined_false (by rw [all_isBlank, hblank]), Segment.write]
      exact .inr (head?_append (by decide))

end Draft

namespace Expr

/-- A selection of a single expression, with the words before it and with what comes behind it. -/
theorem draft_select_single (g : Grammar) {s : Select Expr} {x : Expr}
    (columns : s.columns = [x]) :
    ∃ rest, (Expr.node (.select s)).draft g =
      .phrase ((.text "SELECT" :: Draft.wordIf s.distinct.holds "DISTINCT") ++
        (.join ", " [x.draft g] :: rest)) := by
  have hdraft : (Expr.node (.select s)).draft g = (s.map (piece g)).draft g := by
    rw [draft_node]
    rfl
  rw [hdraft]
  simp only [Select.draft, Select.map, columns, List.append_assoc, List.cons_append,
    List.nil_append]
  exact ⟨_, rfl⟩

end Expr

namespace Database

variable {db : Database} {elapsed : Float} {e : Expr} {q : RenderedQuery}

/-- A selection of nothing but an expression with a space at one end is not tidy. -/
theorem not_isTidy_select_single (builtin : db.dialect.IsBuiltin) {s : Select Expr} {x : Expr}
    (columns : s.columns = [x]) (frayed : (x.draft db.dialect.toGrammar).IsFrayed)
    (h : (db.render elapsed (.node (.select s))).outcome = .ok q) : ¬ IsTidy q.sql := by
  have visible : ∀ n : Nat, db.dialect.placeholder (n + 1) ≠ "" :=
    fun n => builtin.placeholder_ne _
  obtain ⟨hsql, -⟩ := outcome_segments visible h
  obtain ⟨rest, hdraft⟩ := Expr.draft_select_single db.dialect.toGrammar columns
  have full : (x.draft db.dialect.toGrammar).isBlank = false := by
    have hne := (frayed _ visible 0).ne
    rw [Ne, Segment.write_eq_empty visible] at hne
    exact eq_false_of_ne_true hne
  have column : (Draft.join ", " [x.draft db.dialect.toGrammar]).isBlank = false := by
    simp [Draft.isBlank_join, full]
  have front : (.text "SELECT" :: Draft.wordIf s.distinct.holds "DISTINCT" : List Draft).all
      Draft.isBlank = false := by
    simp [Draft.isBlank_text]
  rw [Expr.segments, hdraft, Draft.segments_phrase_append front, Draft.spaced_cons column,
    Draft.segments_join_single _ full, Segment.write_append, Segment.write, Segment.write_append,
    ← String.append_assoc, ← String.append_assoc] at hsql
  rw [hsql]
  refine (frayed _ visible _).not_isTidy ?_ (Draft.write_spaced _ _ _)
  exact getLast?_append (by decide)

/-- **Where stray spaces come from.** If no text in an expression has a space in it and no node in
it leaves a gap, the text of its query has no space at its ends and no two in a row, even if parts
of it have no text on the dialect. A gap alone is enough for a stray space: a selection of nothing
but an expression that leaves one always has a space too many. -/
theorem isTidy_of_gapless (builtin : db.dialect.IsBuiltin)
    (h : (db.render elapsed e).outcome = .ok q) :
    (e.Everywhere Expr.Spaceless →
        (e.Everywhere fun x => x.leavesGap db.dialect.toGrammar = false) → IsTidy q.sql) ∧
      ∀ s x, e = .node (.select s) → s.columns = [x] →
        x.leavesGap db.dialect.toGrammar = true → ¬ IsTidy q.sql := by
  constructor
  · intro spaceless gapless
    obtain ⟨hsql, -⟩ := outcome_segments (fun n => builtin.placeholder_ne _) h
    rw [hsql]
    exact (Expr.isTidy_piece builtin.tidy spaceless gapless).draft _ builtin.placeholders_areTidy _
  · rintro s x rfl columns gap
    exact not_isTidy_select_single builtin columns (Expr.isFrayed_draft gap) h

end Database

namespace Expr

/-- A value in a column under another name. -/
def labelledPath : Select Expr where
  columns := [labelled (subpath "c" ["a"]) "x"]
  tables := [orIdentifier "t"]
  predicate := absent
  having := absent
  locking := absent

end Expr

/-- The same selection in PostgreSQL, and in the baseline, which has no words for the value. -/
theorem Database.isTidy_of_gapless_labelled :
    Dialect.postgresql.IsBuiltin ∧ Dialect.generic.IsBuiltin ∧
      (Database.render { dialect := .postgresql } 0 (.node (.select Expr.labelledPath))).outcome =
        .ok ⟨"SELECT (\"c\"->>'a') AS \"x\" FROM \"t\"", []⟩ ∧
      IsTidy "SELECT (\"c\"->>'a') AS \"x\" FROM \"t\"" ∧
      (Database.render { dialect := .generic } 0 (.node (.select Expr.labelledPath))).outcome =
        .ok ⟨"SELECT  AS \"x\" FROM \"t\"", []⟩ ∧
      ¬ IsTidy "SELECT  AS \"x\" FROM \"t\"" := by
  have postgresql : Dialect.postgresql.IsBuiltin :=
    Dialect.isBuiltin_of_mem (by simp [Dialect.builtin])
  have inPostgresql :
      (Database.render { dialect := .postgresql } 0 (.node (.select Expr.labelledPath))).outcome =
        .ok ⟨"SELECT (\"c\"->>'a') AS \"x\" FROM \"t\"", []⟩ := by
    simp only [Database.outcome_eq, Expr.labelledPath, Expr.render, Expr.draft, Expr.piece_node,
      Node.map, Select.map]
    cbv
  have inGeneric :
      (Database.render { dialect := .generic } 0 (.node (.select Expr.labelledPath))).outcome =
        .ok ⟨"SELECT  AS \"x\" FROM \"t\"", []⟩ := by
    simp only [Database.outcome_eq, Expr.labelledPath, Expr.render, Expr.draft, Expr.piece_node,
      Node.map, Select.map]
    cbv
  have spaceless : (Expr.node (.select Expr.labelledPath)).Everywhere Expr.Spaceless := by
    simp [Expr.labelledPath, Select.parts, Node.parts, Expr.Spaceless, Expr.verbatim,
      Expr.quotedTexts, Expr.labelled, Expr.subpath, Expr.orIdentifier, Expr.absent,
      Outline.countText, Wording.text?]
  have gapless : (Expr.node (.select Expr.labelledPath)).Everywhere fun x =>
      x.leavesGap Dialect.postgresql.toGrammar = false := by
    simp [Expr.labelledPath, Select.parts, Node.parts, Expr.labelled, Expr.subpath,
      Expr.orIdentifier, Expr.absent, Expr.leavesGap, Node.map, Node.leavesGap, Expr.piece_node]
    exact ⟨rfl, rfl⟩
  have gap : (Expr.labelled (Expr.subpath "c" ["a"]) "x").leavesGap Dialect.generic.toGrammar =
      true := by
    simp only [Expr.leavesGap, Expr.labelled, Expr.subpath, Node.map, Expr.piece_node]
    cbv
  have tidy := (isTidy_of_gapless postgresql inPostgresql).1 spaceless gapless
  have untidy := (isTidy_of_gapless Dialect.isBuiltin_generic inGeneric).2 _ _ rfl rfl gap
  exact ⟨postgresql, Dialect.isBuiltin_generic, inPostgresql, tidy, inGeneric, untidy⟩

end SqlRender
