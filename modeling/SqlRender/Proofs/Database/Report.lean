import SqlRender.Database
import SqlRender.Proofs.Likeness.Runs
import SqlRender.Proofs.Render.Segments

/-!
# Reports

What a report says of the rendering that it is about. Renderings that agree are reported alike:
their queries agree, or both have failed, and the same warnings were given.
-/

namespace SqlRender

/-- The warnings that a report gives. -/
def Report.warnings (r : Report) : List Warning :=
  r.records.filterMap fun record =>
    match record.event with
    | .warning w => some w
    | _ => none

/-- What comes of a rendering and what it has warned of. -/
def Rendering.ending :
    EStateM.Result Fault Serializer Unit → Except Fault RenderedQuery × List Warning
  | .error fault s => (.error fault, s.warnings)
  | .ok _ s => (s.written.text.map fun sql => ⟨sql, s.binds⟩, s.warnings)

theorem warnings_filterMap (ws : List Warning) :
    (ws.map fun w => (⟨.warning, .warning w⟩ : Log.Record)).filterMap (fun record =>
      match record.event with
      | .warning w => some w
      | _ => none) = ws := by
  induction ws with
  | nil => rfl
  | cons w ws ih =>
      rw [List.map_cons, List.filterMap_cons]
      simp only [ih]

/-- A report is about the rendering of its expression, however long it took. -/
theorem Database.render_ending (db : Database) (elapsed : Float) (e : Expr) :
    ((db.render elapsed e).outcome, (db.render elapsed e).warnings) =
      Rendering.ending (e.render db.dialect {}) := by
  unfold Database.render Report.warnings
  cases e.render db.dialect {} with
  | error fault s =>
      simp only [List.filterMap_append, warnings_filterMap]
      simp [Rendering.ending, Log.Timer.record]
  | ok u s =>
      cases htext : s.written.text with
      | error fault =>
          simp only [htext, List.filterMap_append, warnings_filterMap]
          simp [Rendering.ending, Log.Timer.record, htext, Except.map]
      | ok sql =>
          simp only [htext, List.filterMap_append, warnings_filterMap]
          cases db.queryLevel <;>
            simp [Rendering.ending, Log.Timer.record, htext, Except.map]

theorem Database.outcome_eq (db : Database) (elapsed : Float) (e : Expr) :
    (db.render elapsed e).outcome = (Rendering.ending (e.render db.dialect {})).1 :=
  congrArg Prod.fst (db.render_ending elapsed e)

/-- A query comes of a rendering that ends well with text, and has its text and its values. -/
theorem Database.outcome_eq_ok {db : Database} {elapsed : Float} {e : Expr} {q : RenderedQuery} :
    (db.render elapsed e).outcome = .ok q ↔
      ∃ s, e.render db.dialect {} = .ok () s ∧ s.written.text = .ok q.sql ∧ s.binds = q.binds := by
  rw [db.outcome_eq]
  cases hrun : e.render db.dialect {} with
  | error fault s => simp [Rendering.ending]
  | ok u s =>
      cases htext : s.written.text with
      | error fault =>
          simp only [Rendering.ending, htext, Except.map]
          constructor
          · intro h
            cases h
          · rintro ⟨t, heq, htext', -⟩
            cases heq
            rw [htext] at htext'
            cases htext'
      | ok sql =>
          simp only [Rendering.ending, htext, Except.map]
          constructor
          · intro h
            cases h
            exact ⟨s, rfl, htext, rfl⟩
          · rintro ⟨t, heq, htext', hbinds⟩
            cases heq
            rw [htext] at htext'
            cases htext'
            cases q
            cases hbinds
            rfl

/-- The text of a query is made of the segments of its expression, and its values are those among
them. -/
theorem Database.outcome_segments {db : Database} {elapsed : Float} {e : Expr} {q : RenderedQuery}
    (visible : ∀ n : Nat, db.dialect.placeholder (n + 1) ≠ "")
    (h : (db.render elapsed e).outcome = .ok q) :
    q.sql = Segment.write db.dialect.placeholder 0 (e.segments db.dialect.toGrammar) ∧
      q.binds = Segment.values (e.segments db.dialect.toGrammar) := by
  obtain ⟨s, hrun, htext, hbinds⟩ := outcome_eq_ok.1 h
  obtain ⟨-, hwritten⟩ := Written.text_eq_ok.1 htext
  have happ := Draft.run_appends visible (e.draft db.dialect.toGrammar) {} s hrun
  have hsql := happ.sql
  rw [Serializer.sql_nil, String.empty_append] at hsql
  exact ⟨hwritten.trans hsql, hbinds.symm.trans happ.binds⟩

/-- What is logged once a rendering is over: its warnings, the time that it took, and the query that
came of it with its values as they are shown. -/
def Database.logged (db : Database) (elapsed : Float) (warnings : List Warning)
    (query : Option (String × List Value)) : List Log.Record :=
  let timer : Log.Timer :=
    { task := db.dialect.name ++ " render"
      sql := query.map (·.1)
      params := (query.map fun q => .list q.2).getD .null }
  warnings.map (fun w => ⟨.warning, .warning w⟩) ++ [timer.record db.slowMs elapsed] ++
    match query, db.queryLevel with
    | some (sql, params), some level => [⟨level, .query sql params db.dialect.name db.label⟩]
    | _, _ => []

/-- The values of a query are logged as redaction leaves them, and not otherwise. -/
theorem Database.records_eq (db : Database) (elapsed : Float) (e : Expr) :
    (db.render elapsed e).records =
      db.logged elapsed (db.render elapsed e).warnings
        ((db.render elapsed e).outcome.toOption.map fun q =>
          (q.sql, Redaction.redactBinds q.binds)) := by
  have hending := db.render_ending elapsed e
  rw [show (db.render elapsed e).warnings = _ from congrArg Prod.snd hending,
    show (db.render elapsed e).outcome = _ from congrArg Prod.fst hending]
  unfold Database.render
  cases e.render db.dialect {} with
  | error fault s => simp [Rendering.ending, Except.toOption, logged]
  | ok u s =>
      cases htext : s.written.text with
      | error fault => simp [htext, Rendering.ending, Except.map, Except.toOption, logged]
      | ok sql =>
          simp only [htext, Rendering.ending, Except.map, Except.toOption, Option.map_some, logged]
          cases db.queryLevel <;> rfl

namespace Agreement

variable (A : Agreement)

/-- Outcomes that agree: queries with texts that agree and values that agree one by one, or faults
that agree. -/
inductive outcome : Except Fault RenderedQuery → Except Fault RenderedQuery → Prop where
  | ok {q q' : RenderedQuery} : A.text q.sql q'.sql → List.Forall₂ A.value q.binds q'.binds →
    outcome (.ok q) (.ok q')
  | error {f f' : Fault} : A.fault f f' → outcome (.error f) (.error f')

variable {A}

theorem ending {x y : EStateM.Result Fault Serializer Unit} (h : A.result (fun _ _ => True) x y) :
    A.outcome (Rendering.ending x).1 (Rendering.ending y).1 ∧
      (Rendering.ending x).2 = (Rendering.ending y).2 := by
  cases h with
  | error hfault hst => exact ⟨.error hfault, hst.warnings⟩
  | @ok _ _ s t _ hst =>
      obtain ⟨⟨chunks, stray⟩, binds, warnings⟩ := s
      obtain ⟨⟨chunks', stray'⟩, binds', warnings'⟩ := t
      obtain ⟨hchunks, hstray, hbinds, hwarnings⟩ := hst
      simp only at hchunks hstray hbinds hwarnings
      subst hstray
      refine ⟨?_, hwarnings⟩
      cases stray with
      | none => exact .ok (text_join hchunks) hbinds
      | some stray => exact .error (A.fault_refl _)

/-- Renderings that agree are reported alike. -/
theorem report {db : Database} {e e' : Expr}
    (h : A.running (e.render db.dialect) (e'.render db.dialect)) (elapsed elapsed' : Float) :
    A.outcome (db.render elapsed e).outcome (db.render elapsed' e').outcome ∧
      (db.render elapsed e).warnings = (db.render elapsed' e').warnings := by
  have hend := ending (h {} {} (empty A))
  rw [← db.render_ending elapsed e, ← db.render_ending elapsed' e'] at hend
  exact hend

end Agreement

end SqlRender
