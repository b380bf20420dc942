import SqlRender.Proofs.Trigger.Legality

/-!
# Options of triggers

Which options of a trigger are read is told by the features of the dialect. The clauses read an
option only where the dialect understands it, and so do all but three of the rules
(`CreateTrigger.render_of_agree`). There is no rule about the referenced table, so that it is named
by triggers that are no constraints as well (`CreateTrigger.clauses_of_unconstrained`).
-/

namespace SqlRender

open Rendering

namespace CreateTrigger

variable {g : Grammar} {d : Dialect} {c c' : CreateTrigger Expr}
  {features : FeatureSet TriggerCreateFeature}

/-! ## Which rules are looked up -/

/-- The rules that are looked up under a set of features, in order. -/
def checked (features : FeatureSet TriggerCreateFeature) : List Rule :=
  (if !features.has .consistency then []
   else
    [Rule.insteadOfWithoutColumns, Rule.insteadOfForEachRow, Rule.columnsOnUpdate,
      Rule.insteadOfWithoutCondition] ++
    if !features.has .constraints then []
    else [Rule.constraintAfter, Rule.constraintForEachRow, Rule.timingOnConstraint]) ++
  [Rule.definerUnderstood, Rule.bodyGiven, Rule.procedureGiven]

open Classical in
/-- Of the rules that are looked up those are kept that the trigger does not break. -/
theorem rules_eq (features : FeatureSet TriggerCreateFeature) (c : CreateTrigger Expr) :
    (c.map (Expr.piece g)).rules features =
      (checked features).map fun rule => (!decide (c.Breaks features rule), rule) := by
  have hcolumns : c.columns.isEmpty = decide (c.columns = []) := by
    rw [Bool.eq_iff_iff, List.isEmpty_iff, decide_eq_true_eq]
  have hbody : c.body.isSome = !decide (c.body = none) := by
    rw [Bool.eq_iff_iff, Bool.not_eq_true', decide_eq_false_iff_not, ← Option.ne_none_iff_isSome]
  cases hchecked : features.has .consistency <;> cases hknown : features.has .constraints <;>
    simp [rules, checked, map, Breaks, Expr.isKeyword_piece, Expr.isAbsent_piece, hchecked, hknown,
      hcolumns, hbody, Bool.or_assoc]

open Classical in
/-- The rule that is found is the first that is looked up and that the trigger breaks. -/
theorem broken?_eq (features : FeatureSet TriggerCreateFeature) (c : CreateTrigger Expr) :
    (c.map (Expr.piece g)).broken? features =
      (checked features).find? fun rule => decide (c.Breaks features rule) := by
  rw [broken?, rules_eq, List.find?_map, Option.map_map]
  simp [Function.comp_def]

/-- Triggers that break the same rules are refused alike. -/
theorem broken?_congr (same : ∀ rule, c.Breaks features rule ↔ c'.Breaks features rule) :
    (c.map (Expr.piece g)).broken? features = (c'.map (Expr.piece g)).broken? features := by
  rw [broken?_eq, broken?_eq]
  exact congrArg (List.find? · _) (funext fun rule => by rw [decide_eq_decide, same rule])

/-! ## Triggers that agree on what is understood -/

/-- Two triggers that agree on their subject, on what they do, and on every option that is
understood. -/
structure AgreesUnder (features : FeatureSet TriggerCreateFeature) (c c' : CreateTrigger Expr) :
    Prop where
  name : c.name = c'.name
  table : c.table = c'.table
  time : c.time = c'.time
  event : c.event = c'.event
  procedure : c.procedure = c'.procedure
  definer : c.definer = c'.definer
  body : c.body = c'.body
  columns : features.has .updateColumns = true → c.columns = c'.columns
  condition : features.has .condition = true → c.condition = c'.condition
  each : features.has .forEach = true → c.each = c'.each
  order : features.has .order = true → c.order = c'.order ∧ c.orderTrigger = c'.orderTrigger
  constraint : features.has .constraints = true →
    c.isConstraint = c'.isConstraint ∧ c.timing = c'.timing ∧
      c.referencedTable = c'.referencedTable

/-- The rules that look at the columns of a trigger, or at what it runs for, whether or not the
dialect understands this. -/
def unguarded : List Rule :=
  [.insteadOfWithoutColumns, .insteadOfForEachRow, .constraintForEachRow]

namespace AgreesUnder

/-- The other rules are about what is understood. -/
theorem breaks_iff (agree : c.AgreesUnder features c') {rule : Rule} (guarded : rule ∉ unguarded) :
    c.Breaks features rule ↔ c'.Breaks features rule := by
  cases rule with
  | insteadOfWithoutColumns | insteadOfForEachRow | constraintForEachRow =>
      exact absurd (by decide) guarded
  | columnsOnUpdate =>
      rw [Breaks, Breaks, agree.event]
      refine and_congr_right fun _ => and_congr_right fun known => ?_
      rw [agree.columns known]
  | insteadOfWithoutCondition =>
      rw [Breaks, Breaks, agree.time]
      refine and_congr_right fun _ => and_congr_right fun known => ?_
      rw [agree.condition known]
  | constraintAfter =>
      rw [Breaks, Breaks, agree.time]
      refine and_congr_right fun _ => and_congr_right fun known => ?_
      rw [(agree.constraint known).1]
  | timingOnConstraint =>
      rw [Breaks, Breaks]
      refine and_congr_right fun _ => and_congr_right fun known => ?_
      rw [(agree.constraint known).1, (agree.constraint known).2.1]
  | definerUnderstood => rw [Breaks, Breaks, agree.definer]
  | bodyGiven => rw [Breaks, Breaks, agree.body]
  | procedureGiven => rw [Breaks, Breaks, agree.procedure]
  | subpathNotEmpty | updateNotEmpty => rfl

/-- Where columns and what a trigger runs for are understood, or where nothing is checked, the
unguarded rules are about what is understood, too. -/
theorem unguarded_iff (agree : c.AgreesUnder features c')
    (understood : features.has .consistency = true →
      features.has .updateColumns = true ∧ features.has .forEach = true) {rule : Rule}
    (hrule : rule ∈ unguarded) : c.Breaks features rule ↔ c'.Breaks features rule := by
  simp only [unguarded, List.mem_cons, List.not_mem_nil, or_false] at hrule
  rcases hrule with rfl | rfl | rfl
  · rw [Breaks, Breaks, agree.time, agree.event]
    refine and_congr_right fun hchecked => ?_
    rw [agree.columns (understood hchecked).1]
  · rw [Breaks, Breaks, agree.time]
    refine and_congr_right fun hchecked => ?_
    rw [agree.each (understood hchecked).2]
  · rw [Breaks, Breaks]
    refine and_congr_right fun hchecked => and_congr_right fun known => ?_
    rw [agree.each (understood hchecked).2, (agree.constraint known).1]

/-- What is asked for only under a feature is the same if it is the same where the feature is. -/
theorem ite_eq_of_known {known present present' : Bool} {ds ds' : List Draft}
    (h : known = true → present = present' ∧ ds = ds') :
    (if known && present then ds else []) = if known && present' then ds' else [] := by
  cases known with
  | false => rfl
  | true => rw [(h rfl).1, (h rfl).2]

/-- What is not understood adds no clause. -/
theorem ownDrafts_eq (agree : c.AgreesUnder g.triggers.create c') (k : TriggerClause) :
    c.ownDrafts g k = c'.ownDrafts g k := by
  cases k with
  | create => rfl
  | name => rw [ownDrafts, ownDrafts, emits, emits, drafts, drafts, agree.name]
  | definer => rw [ownDrafts, ownDrafts, emits, emits, drafts, drafts, agree.definer]
  | time => rw [ownDrafts, ownDrafts, emits, emits, drafts, drafts, agree.time]
  | event => rw [ownDrafts, ownDrafts, emits, emits, drafts, drafts, agree.event]
  | table => rw [ownDrafts, ownDrafts, emits, emits, drafts, drafts, agree.table]
  | body => rw [ownDrafts, ownDrafts, emits, emits, drafts, drafts, agree.body]
  | procedure =>
      rw [ownDrafts, ownDrafts, emits, emits, drafts, drafts, agree.body, agree.procedure]
  | constraint =>
      exact ite_eq_of_known fun known => ⟨congrArg Flag.holds (agree.constraint known).1, rfl⟩
  | referencedTable =>
      refine ite_eq_of_known fun known => ?_
      rw [drafts, drafts, (agree.constraint known).2.2]
      exact ⟨rfl, rfl⟩
  | timing =>
      refine ite_eq_of_known fun known => ?_
      rw [drafts, drafts, (agree.constraint known).2.1]
      exact ⟨rfl, rfl⟩
  | columns =>
      refine ite_eq_of_known fun known => ?_
      rw [drafts, drafts, agree.columns known]
      exact ⟨rfl, rfl⟩
  | condition =>
      refine ite_eq_of_known fun known => ?_
      rw [drafts, drafts, agree.condition known]
      exact ⟨rfl, rfl⟩
  | order =>
      rw [ownDrafts, ownDrafts, emits, emits, Bool.and_assoc, Bool.and_assoc]
      refine ite_eq_of_known fun known => ?_
      rw [drafts, drafts, (agree.order known).1, (agree.order known).2]
      exact ⟨rfl, rfl⟩
  | each =>
      -- for each row may be forced by another feature, or on constraints
      have forced : c.forcesRow g.triggers.create = c'.forcesRow g.triggers.create := by
        unfold forcesRow
        cases known : g.triggers.create.has .constraints with
        | false => rw [Bool.and_false, Bool.false_and, Bool.false_and]
        | true => rw [(agree.constraint known).1]
      rw [ownDrafts, ownDrafts, emits, emits, drafts, drafts, forced]
      cases known : g.triggers.create.has .forEach with
      | false => cases c'.forcesRow g.triggers.create <;> rfl
      | true => rw [agree.each known]

theorem clauses_congr (agree : c.AgreesUnder g.triggers.create c') :
    (c.map (Expr.piece g)).clauses g.triggers.create =
      (c'.map (Expr.piece g)).clauses g.triggers.create := by
  have hsplit (c : CreateTrigger Expr) :
      (c.map (Expr.piece g)).clauses g.triggers.create =
        TriggerClause.all.flatMap (c.ownDrafts g) := by
    rw [clauses_eq]
    exact flatMap_filter ..
  rw [hsplit, hsplit]
  exact congrArg (TriggerClause.all.flatMap ·) (funext agree.ownDrafts_eq)

/-- Triggers that agree on what is understood and break the same rules are drafted alike. -/
theorem draft_eq_of_breaks (agree : c.AgreesUnder g.triggers.create c')
    (same : ∀ rule, c.Breaks g.triggers.create rule ↔ c'.Breaks g.triggers.create rule) :
    (Expr.node (.createTrigger c)).draft g = (Expr.node (.createTrigger c')).draft g := by
  rw [Expr.draft_node, Expr.draft_node]
  show (c.map (Expr.piece g)).draft g = (c'.map (Expr.piece g)).draft g
  rw [draft, draft, broken?_congr same, agree.clauses_congr]

end AgreesUnder

/-- **Options that are not understood.** Two triggers that agree on all that a dialect understands
are rendered alike, with the same text, values and warnings or the same fault, unless one of them
breaks an unguarded rule that the other keeps. That cannot be where nothing is checked, nor where
columns and what a trigger runs for are understood. -/
theorem render_of_agree (d : Dialect) (c c' : CreateTrigger Expr)
    (agree : c.AgreesUnder d.triggers.create c') :
    ((∀ rule ∈ unguarded, c.Breaks d.triggers.create rule ↔ c'.Breaks d.triggers.create rule) →
        (Expr.node (.createTrigger c)).render d = (Expr.node (.createTrigger c')).render d) ∧
      ((d.triggers.create.has .consistency = true →
          d.triggers.create.has .updateColumns = true ∧ d.triggers.create.has .forEach = true) →
        (Expr.node (.createTrigger c)).render d = (Expr.node (.createTrigger c')).render d) := by
  have alike (same : ∀ rule ∈ unguarded,
      c.Breaks d.triggers.create rule ↔ c'.Breaks d.triggers.create rule) :
      (Expr.node (.createTrigger c)).render d = (Expr.node (.createTrigger c')).render d := by
    rw [Expr.render, Expr.render, agree.draft_eq_of_breaks]
    intro rule
    by_cases hrule : rule ∈ unguarded
    · exact same rule hrule
    · exact agree.breaks_iff hrule
  exact ⟨alike, fun understood => alike fun rule hrule => agree.unguarded_iff understood hrule⟩

/-- The removal of rows of a view, with options of all kinds. -/
def removal : CreateTrigger Expr where
  name := .node (.identifier "audit")
  table := .node (.identifier "orders")
  time := .node (.keyword (.triggerTime .insteadOf))
  event := .node (.keyword (.triggerEvent .delete))
  columns := [.node (.identifier "price")]
  isConstraint := .bool true
  timing := .node (.keyword (.triggerTiming .deferred))
  referencedTable := .node (.identifier "accounts")
  each := .node (.keyword (.triggerEach .row))
  condition := .node (.bind (.value (.int 1)))
  procedure := .absent
  definer := .absent
  body := some [.node (.raw "SELECT 1;")]
  order := .node (.keyword (.triggerOrder .follows))
  orderTrigger := .node (.identifier "check")

/-- The same without the options, but for what it runs for. -/
def plainRemoval : CreateTrigger Expr :=
  { removal with
    columns := []
    isConstraint := .bool false
    timing := .absent
    referencedTable := .absent
    condition := .absent
    order := .absent
    orderTrigger := .absent }

/-- A dialect that asks for consistency and understands no option. -/
def checking : Dialect :=
  { triggers := { create := .ofList [.consistency, .body] } }

/-- Options of all kinds are ignored by a dialect that checks what a trigger runs for, and by one
that checks nothing. -/
theorem render_of_agree_removal :
    removal.AgreesUnder checking.triggers.create plainRemoval ∧
      (∀ rule ∈ unguarded, removal.Breaks checking.triggers.create rule ↔
        plainRemoval.Breaks checking.triggers.create rule) ∧
      (Expr.node (.createTrigger removal)).render checking =
        (Expr.node (.createTrigger plainRemoval)).render checking ∧
      removal.AgreesUnder Dialect.mysql.triggers.create
          { removal with columns := [], timing := .absent, each := .absent } ∧
        (Dialect.mysql.triggers.create.has .consistency = true →
          Dialect.mysql.triggers.create.has .updateColumns = true ∧
            Dialect.mysql.triggers.create.has .forEach = true) ∧
        (Expr.node (.createTrigger removal)).render .mysql =
          (Expr.node (.createTrigger
            { removal with columns := [], timing := .absent, each := .absent })).render .mysql := by
  have unknown {features : FeatureSet TriggerCreateFeature} {feature : TriggerCreateFeature}
      {p : Prop} (h : features.has feature = false) (known : features.has feature = true) : p :=
    absurd known (ne_true_of_eq_false h)
  have agree : removal.AgreesUnder checking.triggers.create plainRemoval :=
    { name := rfl, table := rfl, time := rfl, event := rfl, procedure := rfl, definer := rfl
      body := rfl, columns := unknown rfl, condition := unknown rfl, each := fun _ => rfl
      order := unknown rfl, constraint := unknown rfl }
  have same : ∀ rule ∈ unguarded, removal.Breaks checking.triggers.create rule ↔
      plainRemoval.Breaks checking.triggers.create rule := by
    simp [unguarded, Breaks, removal, plainRemoval, checking, FeatureSet.ofList, Expr.isWord]
  have agree' : removal.AgreesUnder Dialect.mysql.triggers.create
      { removal with columns := [], timing := .absent, each := .absent } :=
    { name := rfl, table := rfl, time := rfl, event := rfl, procedure := rfl, definer := rfl
      body := rfl, columns := unknown rfl, condition := unknown rfl, each := unknown rfl
      order := fun _ => ⟨rfl, rfl⟩, constraint := unknown rfl }
  exact ⟨agree, same, (render_of_agree checking _ _ agree).1 same, agree', unknown rfl,
    (render_of_agree .mysql _ _ agree').2 (unknown rfl)⟩

/-! ## Constraint options -/

/-- What a trigger that is rendered adds is the texts of its clauses. -/
theorem exists_sequence {before after : Serializer}
    (accepted : (Expr.node (.createTrigger c)).render d before = .ok () after) :
    ∃ clauses u, c.sequence d before = .ok clauses u ∧
      after.sql = before.sql ++ Text.joinFull " " (clauses.map Prod.snd) ∧
      after.binds = u.binds ∧ after.warnings = u.warnings := by
  have unbroken := broken?_of_kept (g := d.toGrammar) (kept_of_render accepted)
  have textual : IsTextual ((Expr.node (.createTrigger c)).render d) := by
    rw [Expr.render, draft_eq unbroken]
    exact Draft.phrase_isTextual _
  obtain ⟨text, u, hrender, hsql, hbinds, hwarnings⟩ :=
    exists_render (Expr.render_isLocal d _) textual accepted
  rw [render_sequence unbroken, map_eq_pure_bind, bind_eq_ok] at hrender
  obtain ⟨clauses, v, hclauses, hpure⟩ := hrender
  obtain ⟨rfl, rfl⟩ := pure_eq_ok.1 hpure
  exact ⟨clauses, _, hclauses, hsql, hbinds, hwarnings⟩

/-- Which rules a trigger breaks does not depend on the referenced table. -/
theorem breaks_referencedTable (e : Expr) (rule : Rule) :
    { c with referencedTable := e }.Breaks features rule ↔ c.Breaks features rule := by
  cases rule <;> rfl

/-- **Triggers that are no constraints.** Under features that ask for consistency and have
constraints, whatever the others are: a trigger that is no constraint and renders has no word for
constraints and no timing. But a referenced table is neither refused, whichever it is, nor ignored:
there is a clause for it exactly if one is given, and it names what this renders to. -/
theorem clauses_of_unconstrained (d : Dialect) (c : CreateTrigger Expr)
    (checked : d.triggers.create.has .consistency = true)
    (known : d.triggers.create.has .constraints = true) (free : c.isConstraint.holds = false)
    {before after : Serializer}
    (accepted : (Expr.node (.createTrigger c)).render d before = .ok () after) :
    (∃ clauses u, c.sequence d before = .ok clauses u ∧
        after.sql = before.sql ++ Text.joinFull " " (clauses.map Prod.snd) ∧
        after.binds = u.binds ∧ (clauses.map Prod.fst).Sublist TriggerClause.all ∧
        .constraint ∉ clauses.map Prod.fst ∧ .timing ∉ clauses.map Prod.fst ∧
        (.referencedTable ∈ clauses.map Prod.fst ↔ c.referencedTable.isNull = false) ∧
        ∀ text, (.referencedTable, text) ∈ clauses →
          ∃ table, (c.referencedTable.bodyText d).Gives table ∧ text = Text.clause "FROM" table) ∧
      ∀ e rule, ¬ { c with referencedTable := e }.Breaks d.triggers.create rule := by
  have kept := kept_of_render accepted
  obtain ⟨clauses, u, hclauses, hsql, hbinds, -⟩ := exists_sequence accepted
  have hgives : (c.sequence d).Gives clauses := ⟨before, u, hclauses⟩
  refine ⟨⟨clauses, u, hclauses, hsql, hbinds, ?_, ?_, ?_, ?_, ?_⟩, fun e rule hbreaks =>
    kept rule ((breaks_referencedTable e rule).1 hbreaks)⟩
  · rw [(sequence_gives hgives).1]
    exact List.filter_sublist
  · rw [mem_iff_emits hgives, emits, free, Bool.and_false]
    exact Bool.false_ne_true
  · intro htiming
    rw [mem_iff_emits hgives, emits, known, Bool.true_and] at htiming
    exact kept .timingOnConstraint ⟨checked, known, by simp [free], by simpa using htiming⟩
  · rw [mem_iff_emits hgives, emits, known, Bool.true_and, Bool.not_eq_true']
  · intro text hmem
    obtain ⟨said, hsaid, htext⟩ := (sequence_gives hgives).2 _ hmem
    rw [words, map_eq_pure_bind] at hsaid
    obtain ⟨table, htable, hpure⟩ := hsaid.bind
    obtain rfl := hpure.pure
    exact ⟨table, htable, htext.trans (Text.joinFull_single ..)⟩

/-- A trigger that is no constraint, with a referenced table. -/
def balance : CreateTrigger Expr where
  name := .node (.identifier "balance")
  table := .node (.identifier "users")
  time := .node (.keyword (.triggerTime .after))
  event := .node (.keyword (.triggerEvent .insert))
  timing := .absent
  referencedTable := .node (.identifier "accounts")
  each := .node (.keyword (.triggerEach .row))
  condition := .absent
  procedure := .node (.call "check" [])
  definer := .absent
  order := .absent
  orderTrigger := .absent

theorem clauses_of_unconstrained_balance :
    Dialect.postgresql.triggers.create.has .consistency = true ∧
      Dialect.postgresql.triggers.create.has .constraints = true ∧
      balance.isConstraint.holds = false ∧
      ∃ after, (Expr.node (.createTrigger balance)).render .postgresql {} = .ok () after ∧
        after.sql = "CREATE TRIGGER \"balance\" AFTER INSERT ON \"users\" " ++
          "FROM \"accounts\" FOR EACH ROW EXECUTE PROCEDURE check()" ∧
        ∃ clauses u, balance.sequence .postgresql {} = .ok clauses u ∧
          after.sql = ({} : Serializer).sql ++ Text.joinFull " " (clauses.map Prod.snd) ∧
          .referencedTable ∈ clauses.map Prod.fst ∧ .timing ∉ clauses.map Prod.fst := by
  have checked : Dialect.postgresql.triggers.create.has .consistency = true := by decide
  have known : Dialect.postgresql.triggers.create.has .constraints = true := by decide
  have hrender : Rendering.render ((Expr.node (.createTrigger balance)).render .postgresql) =
      pure ("CREATE TRIGGER \"balance\" AFTER INSERT ON \"users\" " ++
        "FROM \"accounts\" FOR EACH ROW EXECUTE PROCEDURE check()") := by
    have hdraft : (Expr.node (.createTrigger balance)).draft Dialect.postgresql.toGrammar =
        .phrase [.text "CREATE", .text "TRIGGER", .text "\"balance\"", .text "AFTER",
          .text "INSERT", .text "ON", .text "\"users\"", .clause "FROM" (.text "\"accounts\""),
          .text "FOR EACH ROW", .text "EXECUTE PROCEDURE", .seq [.text "check", .group []]] := by
      simp only [balance, Expr.absent, Expr.draft, Expr.piece_node, Expr.piece_value, Node.map,
        CreateTrigger.map, List.map_nil]
      cbv
    have nothing : Draft.renderAll Dialect.postgresql.placeholder [] = pure [] := rfl
    rw [Expr.render, hdraft, Draft.render_phrase, Draft.fullTexts]
    simp only [Draft.renderAll_cons, Draft.render_text, Draft.render_clause, Draft.render_call,
      nothing, pure_bind, map_pure]
    exact congrArg pure (by decide +kernel)
  obtain ⟨after, run, hsql, -, -⟩ :=
    exists_run (Expr.render_isLocal .postgresql _) (congrFun hrender {})
  obtain ⟨⟨clauses, u, hclauses, htexts, -, -, -, htiming, hreferenced, -⟩, -⟩ :=
    clauses_of_unconstrained .postgresql balance checked known rfl run
  exact ⟨checked, known, rfl, after, run, hsql.trans (String.empty_append ..), clauses, u, hclauses,
    htexts, hreferenced.2 rfl, htiming⟩

end CreateTrigger

end SqlRender
