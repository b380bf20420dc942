import SqlRender.Proofs.Expr.AtFault
import SqlRender.Proofs.Trigger.Clauses

/-!
# Legal triggers

Where a dialect asks for consistency, a trigger that renders is legal there: its clauses, as they
are written, contradict each other nowhere (`CreateTrigger.isLegal_of_render`). The rules are about
what the trigger was asked to be, each under features of its own, and the clauses are told by other
features again; that both agree is shown for all of them, and not only for those of a database.
-/

namespace SqlRender

open Rendering

theorem Expr.eq_of_isWord {k : Keyword} {e : Expr} (h : e.isWord k = true) :
    e = .node (.keyword k) := by
  unfold isWord at h
  split at h
  · rw [of_decide_eq_true h]
  · cases h

namespace CreateTrigger

variable {d : Dialect} {c : CreateTrigger Expr} {clauses : List (TriggerClause × String)}

/-- When and for what a trigger runs is left open or said by keywords. -/
structure IsWorded (c : CreateTrigger Expr) : Prop where
  time : c.time = .absent ∨ ∃ k, c.time = .node (.keyword (.triggerTime k))
  event : c.event = .absent ∨ ∃ k, c.event = .node (.keyword (.triggerEvent k))
  each : c.each = .absent ∨ ∃ k, c.each = .node (.keyword (.triggerEach k))
  timing : c.timing = .absent ∨ ∃ k, c.timing = .node (.keyword (.triggerTiming k))

/-- Clauses that do not contradict each other, where triggers have a body or a procedure. -/
structure IsLegal (hasBody : Bool) (clauses : List (TriggerClause × String)) : Prop where
  constraintAfter : .constraint ∈ clauses.map Prod.fst → (.time, "AFTER") ∈ clauses
  constraintForEachRow : .constraint ∈ clauses.map Prod.fst → (.each, "FOR EACH ROW") ∈ clauses
  insteadOfForEachRow : (.time, "INSTEAD OF") ∈ clauses → (.each, "FOR EACH ROW") ∈ clauses
  insteadOfWithoutColumns : (.time, "INSTEAD OF") ∈ clauses → .columns ∉ clauses.map Prod.fst
  insteadOfWithoutCondition : (.time, "INSTEAD OF") ∈ clauses → .condition ∉ clauses.map Prod.fst
  columnsOnUpdate : .columns ∈ clauses.map Prod.fst → (.event, "UPDATE") ∈ clauses
  timingOnConstraint : .timing ∈ clauses.map Prod.fst → .constraint ∈ clauses.map Prod.fst
  body : .body ∈ clauses.map Prod.fst ↔ hasBody = true
  procedure : .procedure ∈ clauses.map Prod.fst ↔ hasBody = false

/-! ## Members of the sequence -/

/-- The sequence is that of the clauses that the trigger has, and each got the text of its words. -/
theorem sequence_gives (h : (c.sequence d).Gives clauses) :
    clauses.map Prod.fst = c.emitted d.triggers.create ∧
      ∀ clause ∈ clauses, ∃ words,
        (c.words d clause.1).Gives words ∧ clause.2 = Text.joinFull " " words := by
  have heach := h.mapM
  generalize c.emitted d.triggers.create = kinds at heach
  clear h
  induction heach with
  | nil => exact ⟨rfl, fun _ hmem => absurd hmem List.not_mem_nil⟩
  | @cons k clause kinds clauses hclause _ ih =>
      rw [map_eq_pure_bind] at hclause
      obtain ⟨words, hwords, hpure⟩ := hclause.bind
      obtain rfl := hpure.pure
      exact ⟨congrArg (k :: ·) ih.1, List.forall_mem_cons.2 ⟨⟨words, hwords, rfl⟩, ih.2⟩⟩

/-- The clauses of a sequence are those that the trigger has. -/
theorem mem_iff_emits (h : (c.sequence d).Gives clauses) (k : TriggerClause) :
    k ∈ clauses.map Prod.fst ↔ c.emits d.triggers.create k = true := by
  rw [(sequence_gives h).1, emitted, List.mem_filter, and_iff_right k.mem_all]

/-- A clause of a single word has this word as its text. -/
theorem text_of_mem {k : TriggerClause} {text word : String} (h : (c.sequence d).Gives clauses)
    (hword : c.words d k = pure [word]) (hmem : (k, text) ∈ clauses) : text = word := by
  obtain ⟨words, hwords, htext⟩ := (sequence_gives h).2 _ hmem
  rw [hword] at hwords
  obtain rfl := hwords.pure
  exact htext.trans (Text.joinFull_single ..)

/-- A clause of a single word stands in the sequence with this word, if the trigger has it. -/
theorem mem_of_emits {k : TriggerClause} {word : String} (h : (c.sequence d).Gives clauses)
    (hword : c.words d k = pure [word]) (hemits : c.emits d.triggers.create k = true) :
    (k, word) ∈ clauses := by
  obtain ⟨⟨k', text⟩, hmem, rfl⟩ := List.mem_map.1 ((mem_iff_emits h k).2 hemits)
  rwa [← text_of_mem h hword hmem]

/-! ## Clauses of a single word -/

theorem partText_keyword {k : Keyword} (plain : Node.keywordDraft d.toGrammar k = .text k.text) :
    (Expr.node (.keyword k)).partText d = pure k.text := by
  show Rendering.render ((Expr.node (.keyword k)).render d) = _
  rw [Expr.render, Expr.draft_node]
  show Rendering.render ((Node.keywordDraft d.toGrammar k).run d.placeholder) = _
  rw [plain, Draft.render_text]

theorem words_time {k : TriggerTime} (h : c.time = .node (.keyword (.triggerTime k))) :
    c.words d .time = pure [k.text] := by
  rw [words, h, partText_keyword rfl]
  rfl

theorem words_event {k : TriggerEvent} (h : c.event = .node (.keyword (.triggerEvent k))) :
    c.words d .event = pure [k.text] := by
  rw [words, h, partText_keyword rfl]
  rfl

theorem words_each (h : c.each.isWord (.triggerEach .row) = true ∨
    c.forcesRow d.triggers.create = true) : c.words d .each = pure ["FOR EACH ROW"] := by
  rw [words]
  split
  · rfl
  · rename_i hforced
    rw [Expr.eq_of_isWord (h.resolve_right hforced), partText_keyword rfl]
    rfl

/-- What is said by a keyword is in the sequence. -/
theorem time_mem (h : (c.sequence d).Gives clauses) {k : TriggerTime}
    (htime : c.time.isWord (.triggerTime k) = true) : (.time, k.text) ∈ clauses := by
  have htime := Expr.eq_of_isWord htime
  exact mem_of_emits h (words_time htime) (by rw [emits, htime]; rfl)

theorem event_mem (h : (c.sequence d).Gives clauses) {k : TriggerEvent}
    (hevent : c.event.isWord (.triggerEvent k) = true) : (.event, k.text) ∈ clauses := by
  have hevent := Expr.eq_of_isWord hevent
  exact mem_of_emits h (words_event hevent) (by rw [emits, hevent]; rfl)

theorem each_mem (h : (c.sequence d).Gives clauses) (rows : d.triggers.create.has .forEach = true)
    (heach : c.each.isWord (.triggerEach .row) = true) : (.each, "FOR EACH ROW") ∈ clauses := by
  refine mem_of_emits h (words_each (.inl heach)) ?_
  rw [emits, rows, Expr.eq_of_isWord heach]
  exact Bool.or_true _

/-- What is in the sequence was said by a keyword. -/
theorem isWord_of_time_mem (worded : c.IsWorded) (h : (c.sequence d).Gives clauses)
    {k : TriggerTime} (hmem : (.time, k.text) ∈ clauses) :
    c.time.isWord (.triggerTime k) = true := by
  have hemits := (mem_iff_emits h .time).1 (List.mem_map_of_mem hmem)
  rcases worded.time with htime | ⟨k', htime⟩
  · rw [emits, htime] at hemits
    cases hemits
  · have htext := text_of_mem h (words_time htime) hmem
    rw [htime]
    cases k <;> cases k' <;> first | rfl | exact absurd htext (by decide)

/-! ## Legality -/

theorem isSome_of_kept {features : FeatureSet TriggerCreateFeature}
    (kept : ∀ rule, ¬ c.Breaks features rule) (known : features.has .body = true) :
    c.body.isSome = true := by
  rw [← Option.ne_none_iff_isSome]
  exact fun hbody => kept .bodyGiven ⟨known, hbody⟩

/-- A trigger that breaks no rule is legal. -/
theorem isLegal_of_kept (checked : d.triggers.create.has .consistency = true)
    (rows : d.triggers.create.has .forEach = true) (worded : c.IsWorded)
    (kept : ∀ rule, ¬ c.Breaks d.triggers.create rule) (h : (c.sequence d).Gives clauses) :
    IsLegal (d.triggers.create.has .body) clauses where
  constraintAfter hmem := by
    obtain ⟨known, asked⟩ := (Bool.and_eq_true ..).mp ((mem_iff_emits h .constraint).1 hmem)
    by_contra hafter
    exact kept .constraintAfter ⟨checked, known, asked, fun htime => hafter (time_mem h htime)⟩
  constraintForEachRow hmem := by
    obtain ⟨known, asked⟩ := (Bool.and_eq_true ..).mp ((mem_iff_emits h .constraint).1 hmem)
    by_contra hrow
    exact kept .constraintForEachRow
      ⟨checked, known, asked, fun heach => hrow (each_mem h rows heach)⟩
  insteadOfForEachRow hmem := by
    have htime : c.time.isWord (.triggerTime .insteadOf) = true := isWord_of_time_mem worded h hmem
    by_contra hrow
    exact kept .insteadOfForEachRow ⟨checked, htime, fun heach => hrow (each_mem h rows heach)⟩
  insteadOfWithoutColumns hmem hcolumns := by
    have htime : c.time.isWord (.triggerTime .insteadOf) = true := isWord_of_time_mem worded h hmem
    obtain ⟨known, some⟩ := (Bool.and_eq_true ..).mp ((mem_iff_emits h .columns).1 hcolumns)
    have some : c.columns ≠ [] := by simpa using some
    -- columns are for updates, and an update instead of another is refused with columns
    by_cases hevent : c.event.isWord (.triggerEvent .update) = true
    · exact kept .insteadOfWithoutColumns ⟨checked, htime, hevent, some⟩
    · exact kept .columnsOnUpdate ⟨checked, known, some, hevent⟩
  insteadOfWithoutCondition hmem hcondition := by
    have htime : c.time.isWord (.triggerTime .insteadOf) = true := isWord_of_time_mem worded h hmem
    obtain ⟨known, given⟩ := (Bool.and_eq_true ..).mp ((mem_iff_emits h .condition).1 hcondition)
    exact kept .insteadOfWithoutCondition ⟨checked, known, htime, by simpa using given⟩
  columnsOnUpdate hmem := by
    obtain ⟨known, some⟩ := (Bool.and_eq_true ..).mp ((mem_iff_emits h .columns).1 hmem)
    by_contra hupdate
    exact kept .columnsOnUpdate
      ⟨checked, known, by simpa using some, fun hevent => hupdate (event_mem h hevent)⟩
  timingOnConstraint hmem := by
    obtain ⟨known, given⟩ := (Bool.and_eq_true ..).mp ((mem_iff_emits h .timing).1 hmem)
    rw [mem_iff_emits h, emits, known, Bool.true_and]
    by_contra hasked
    exact kept .timingOnConstraint ⟨checked, known, hasked, by simpa using given⟩
  body := by
    rw [mem_iff_emits h, emits, Bool.and_eq_true, and_iff_left_iff_imp]
    exact isSome_of_kept kept
  procedure := by
    rw [mem_iff_emits h, emits]
    by_cases known : d.triggers.create.has .body = true
    · simp [known, isSome_of_kept kept known]
    · have given : c.procedure.isNull = false := by
        by_contra hnull
        exact kept .procedureGiven ⟨known, by simpa using hnull⟩
      simp [known, given]

/-- A trigger that renders breaks no rule. -/
theorem kept_of_render {before after : Serializer}
    (accepted : (Expr.node (.createTrigger c)).render d before = .ok () after) (rule : Rule) :
    ¬ c.Breaks d.triggers.create rule := by
  intro hbreaks
  obtain ⟨found, -, hdraft⟩ := Node.draft_of_breaks (g := d.toGrammar) (.createTrigger hbreaks)
  rw [Expr.render, hdraft] at accepted
  cases accepted

/-- The search for a broken rule finds none if none is broken. -/
theorem broken?_of_kept {features : FeatureSet TriggerCreateFeature} {g : Grammar}
    (kept : ∀ rule, ¬ c.Breaks features rule) :
    (c.map (Expr.piece g)).broken? features = none := by
  rw [broken?, Option.map_eq_none_iff, List.find?_eq_none]
  rintro ⟨keeps, rule⟩ hmem
  cases keeps with
  | true => exact Bool.false_ne_true
  | false => exact absurd ((mem_rules_iff features c rule).1 hmem) (kept rule)

/-- **Accepted triggers are legal.** Under features that ask for consistency and let a trigger say
what it runs for, whatever the others are: if a trigger renders, what is added is the texts of its
clauses in their order with spaces between them, and these clauses do not contradict each other. -/
theorem isLegal_of_render (d : Dialect) (c : CreateTrigger Expr)
    (checked : d.triggers.create.has .consistency = true)
    (rows : d.triggers.create.has .forEach = true) (worded : c.IsWorded)
    {before after : Serializer}
    (accepted : (Expr.node (.createTrigger c)).render d before = .ok () after) :
    ∃ clauses u, c.sequence d before = .ok clauses u ∧
      after.sql = before.sql ++ Text.joinFull " " (clauses.map Prod.snd) ∧
      after.binds = u.binds ∧ (clauses.map Prod.fst).Sublist TriggerClause.all ∧
      IsLegal (d.triggers.create.has .body) clauses := by
  have kept := kept_of_render accepted
  have unbroken := broken?_of_kept (g := d.toGrammar) kept
  have htextual : IsTextual ((Expr.node (.createTrigger c)).render d) := by
    rw [Expr.render, draft_eq unbroken]
    exact Draft.phrase_isTextual _
  obtain ⟨text, u, hrender, hsql, hbinds, -⟩ :=
    exists_render (Expr.render_isLocal d _) htextual accepted
  rw [render_sequence unbroken, map_eq_pure_bind, bind_eq_ok] at hrender
  obtain ⟨clauses, v, hclauses, hpure⟩ := hrender
  obtain ⟨rfl, rfl⟩ := pure_eq_ok.1 hpure
  have hgives : (c.sequence d).Gives clauses := ⟨before, _, hclauses⟩
  refine ⟨clauses, _, hclauses, hsql, hbinds, ?_, isLegal_of_kept checked rows worded kept hgives⟩
  rw [(sequence_gives hgives).1]
  exact List.filter_sublist

/-- A constraint that is checked late, for changes of two columns and under a condition. -/
def lateCheck : CreateTrigger Expr where
  name := .node (.identifier "check")
  table := .node (.identifier "orders")
  time := .node (.keyword (.triggerTime .after))
  event := .node (.keyword (.triggerEvent .update))
  columns := [.node (.identifier "price"), .node (.identifier "amount")]
  isConstraint := .bool true
  timing := .node (.keyword (.triggerTiming .deferred))
  referencedTable := .absent
  each := .node (.keyword (.triggerEach .row))
  condition := .node (.identifier "open")
  procedure := .node (.call "refuse" [])
  definer := .absent
  order := .absent
  orderTrigger := .absent

theorem isLegal_of_render_lateCheck :
    Dialect.postgresql.triggers.create.has .consistency = true ∧
      Dialect.postgresql.triggers.create.has .forEach = true ∧ lateCheck.IsWorded ∧
      ∃ after, (Expr.node (.createTrigger lateCheck)).render .postgresql {} = .ok () after ∧
        after.sql = "CREATE CONSTRAINT TRIGGER \"check\" AFTER UPDATE OF \"price\", " ++
          "\"amount\" ON \"orders\" DEFERRABLE INITIALLY DEFERRED FOR EACH ROW " ++
          "WHEN (\"open\") EXECUTE PROCEDURE refuse()" ∧
        ∃ clauses u, lateCheck.sequence .postgresql {} = .ok clauses u ∧
          after.sql = ({} : Serializer).sql ++ Text.joinFull " " (clauses.map Prod.snd) ∧
          after.binds = u.binds ∧ (clauses.map Prod.fst).Sublist TriggerClause.all ∧
          IsLegal (Dialect.postgresql.triggers.create.has .body) clauses := by
  have checked : Dialect.postgresql.triggers.create.has .consistency = true := by decide
  have rows : Dialect.postgresql.triggers.create.has .forEach = true := by decide
  have worded : lateCheck.IsWorded :=
    ⟨.inr ⟨_, rfl⟩, .inr ⟨_, rfl⟩, .inr ⟨_, rfl⟩, .inr ⟨_, rfl⟩⟩
  have hrender : Rendering.render ((Expr.node (.createTrigger lateCheck)).render .postgresql) =
      pure ("CREATE CONSTRAINT TRIGGER \"check\" AFTER UPDATE OF \"price\", " ++
        "\"amount\" ON \"orders\" DEFERRABLE INITIALLY DEFERRED FOR EACH ROW " ++
        "WHEN (\"open\") EXECUTE PROCEDURE refuse()") := by
    have hdraft : (Expr.node (.createTrigger lateCheck)).draft Dialect.postgresql.toGrammar =
        .phrase [.text "CREATE", .text "CONSTRAINT", .text "TRIGGER", .text "\"check\"",
          .text "AFTER", .text "UPDATE", .text "OF",
          .join ", " [.text "\"price\"", .text "\"amount\""], .text "ON", .text "\"orders\"",
          .text "DEFERRABLE INITIALLY DEFERRED", .text "FOR EACH ROW", .text "WHEN",
          .group [.text "\"open\""], .text "EXECUTE PROCEDURE",
          .seq [.text "refuse", .group []]] := by
      simp only [lateCheck, Expr.absent, Expr.draft, Expr.piece_node,
        Expr.piece_value, Node.map, CreateTrigger.map, List.map_cons, List.map_nil]
      cbv
    have nothing : Draft.renderAll Dialect.postgresql.placeholder [] = pure [] := rfl
    rw [Expr.render, hdraft, Draft.render_phrase, Draft.fullTexts]
    simp only [Draft.renderAll_cons, Draft.render_text, Draft.render_join, Draft.render_group,
      Draft.render_call, nothing, pure_bind, map_pure]
    exact congrArg pure (by decide +kernel)
  obtain ⟨after, run, hsql, -, -⟩ :=
    exists_run (Expr.render_isLocal .postgresql _) (congrFun hrender {})
  exact ⟨checked, rows, worded, after, run, hsql.trans (String.empty_append ..),
    isLegal_of_render .postgresql lateCheck checked rows worded run⟩

end CreateTrigger

end SqlRender
