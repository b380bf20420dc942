import SqlRender.Expr.Build
import SqlRender.Proofs.Query.Omission

/-!
# The clauses of a trigger

The creation of a trigger is a sequence of clauses in a fixed order. Which of them are there is told
by the trigger and the features of the dialect (`CreateTrigger.emits`), and what each has to say by
its own words (`CreateTrigger.words`). A trigger that breaks no rule renders to the texts of its
clauses with spaces between them (`CreateTrigger.render_sequence`).
-/

namespace SqlRender

open Rendering

/-- The clauses of the creation of a trigger, in the order in which they are written. -/
inductive TriggerClause where
  | create
  | constraint
  | name
  | definer
  | time
  | event
  | columns
  | table
  | referencedTable
  | timing
  | each
  | condition
  | order
  /-- The statements that are run, from BEGIN to END. -/
  | body
  /-- The procedure that is run. -/
  | procedure
  deriving DecidableEq

/-- All clauses, in order. -/
def TriggerClause.all : List TriggerClause :=
  [.create, .constraint, .name, .definer, .time, .event, .columns, .table, .referencedTable,
    .timing, .each, .condition, .order, .body, .procedure]

theorem TriggerClause.mem_all (k : TriggerClause) : k ∈ all := by
  cases k <;> decide

/-- A filtered list gives what its members give that pass. -/
theorem flatMap_filter {α β : Type} (p : α → Bool) (f : α → List β) (xs : List α) :
    (xs.filter p).flatMap f = xs.flatMap fun x => if p x then f x else [] := by
  induction xs with
  | nil => rfl
  | cons x xs ih =>
      rw [List.filter_cons, List.flatMap_cons, ← ih]
      cases p x <;> rfl

/-- What is done to each of several results may be done after all of them are there. -/
theorem Rendering.mapM_map_result {α β γ : Type} (f : β → γ) (m : α → Rendering β) (xs : List α) :
    (xs.mapM fun x => f <$> m x) = List.map f <$> xs.mapM m := by
  induction xs with
  | nil => rfl
  | cons x xs ih => simp [List.mapM_cons, ih]

namespace Expr

variable {g : Grammar}

/-- The text of an expression in parentheses. -/
def groupText (d : Dialect) (e : Expr) : Rendering String :=
  Rendering.render ((Expr.group e).render d)

/-- A missing expression has no part in a phrase. -/
theorem part_of_isNull {e : Expr} (h : e.isNull = true) : (e.piece g).part = [] := by
  cases e with
  | value v =>
      cases v with
      | null => rfl
      | _ => cases h
  | sequence _ _ => cases h
  | node _ => cases h

/-- A missing expression has no clause. -/
theorem clause_of_isNull {e : Expr} (h : e.isNull = true) (keyword : String) :
    (e.piece g).clause keyword = [] := by
  rw [Piece.clause, isAbsent_piece, h]
  rfl

theorem items_ofValues (vs : List Value) :
    Piece.ofValues vs = Piece.drafts ((vs.map Expr.value).map (piece g)) := by
  induction vs with
  | nil => rfl
  | cons v vs ih =>
      rw [Piece.ofValues, ih]
      rfl

/-- An expression in parentheses is drafted as the group of it. -/
theorem grouped_piece (e : Expr) : (e.piece g).grouped = (Expr.group e).draft g := by
  have single (e : Expr) : (Expr.node (.group [e])).draft g = .group [e.draft g] := by
    rw [draft_node]
    rfl
  cases e with
  | value v =>
      cases v with
      | list items =>
          show Draft.group (Piece.ofValues items) = _
          rw [items_ofValues (g := g), draft, Expr.group, piece_node]
          rfl
      | tuple items =>
          show Draft.group (Piece.ofValues items) = _
          rw [items_ofValues (g := g), draft, Expr.group, piece_node]
          rfl
      | _ => exact (single _).symm
  | sequence isTuple items =>
      rw [piece_sequence, draft, Expr.group, piece_node]
      rfl
  | node n =>
      have hshape (ds : List Draft) : (n.map (piece g)).shape g ≠ .items ds := by
        unfold Node.shape
        split <;> try split
        all_goals simp
      show _ = (Expr.node (.group [.node n])).draft g
      rw [single, draft, piece_node, Piece.grouped]
      split
      · rename_i ds hitems
        exact absurd hitems (hshape ds)
      · rfl

end Expr

namespace CreateTrigger

/-- Whether a trigger is declared to run for each row whatever it says itself. -/
def forcesRow (features : FeatureSet TriggerCreateFeature) (c : CreateTrigger Expr) : Bool :=
  features.has .rowRequired ||
    (features.has .forEach && features.has .constraints && c.isConstraint.holds)

/-- Whether a trigger has a clause under a set of features. -/
def emits (features : FeatureSet TriggerCreateFeature) (c : CreateTrigger Expr) :
    TriggerClause → Bool
  | .create | .name | .table => true
  | .constraint => features.has .constraints && c.isConstraint.holds
  | .definer => features.has .definer && !c.definer.isNull
  | .time => !c.time.isNull
  | .event => !c.event.isNull
  | .columns => features.has .updateColumns && !c.columns.isEmpty
  | .referencedTable => features.has .constraints && !c.referencedTable.isNull
  | .timing => features.has .constraints && !c.timing.isNull
  | .each => c.forcesRow features || (features.has .forEach && !c.each.isNull)
  | .condition => features.has .condition && !c.condition.isNull
  | .order => features.has .order && !c.order.isNull && !c.orderTrigger.isNull
  | .body => features.has .body && c.body.isSome
  | .procedure => !(features.has .body && c.body.isSome) && !c.procedure.isNull

/-- The clauses that a trigger has, in order. -/
def emitted (features : FeatureSet TriggerCreateFeature) (c : CreateTrigger Expr) :
    List TriggerClause :=
  TriggerClause.all.filter (c.emits features)

/-- What a clause has to say: its keywords, and the texts of what it is about. -/
def words (d : Dialect) (c : CreateTrigger Expr) : TriggerClause → Rendering (List String)
  | .create => pure ["CREATE"]
  | .constraint => pure ["CONSTRAINT"]
  | .name => (fun name => ["TRIGGER", name]) <$> c.name.partText d
  | .definer => (fun definer => ["DEFINER =", definer]) <$> c.definer.partText d
  | .time => (fun time => [time]) <$> c.time.partText d
  | .event => (fun event => [event]) <$> c.event.partText d
  | .columns => (fun columns => ["OF", Text.joinFull ", " columns]) <$> Expr.itemTexts d c.columns
  | .table => (fun table => ["ON", table]) <$> c.table.partText d
  | .referencedTable =>
    (fun table => [Text.clause "FROM" table]) <$> c.referencedTable.bodyText d
  | .timing => (fun timing => [timing]) <$> c.timing.partText d
  | .each =>
    if c.forcesRow d.triggers.create then pure [TriggerEach.row.text]
    else (fun each => [each]) <$> c.each.partText d
  | .condition =>
    (fun condition => ["WHEN", condition]) <$>
      if d.triggers.create.has .parenthesizedCondition then c.condition.groupText d
      else c.condition.partText d
  | .order => do
    let order ← c.order.partText d
    let trigger ← c.orderTrigger.partText d
    return [order, trigger]
  | .body =>
    (fun statements => ["BEGIN", Text.joinFull " " statements, "END;"]) <$>
      Expr.itemTexts d (c.body.getD [])
  | .procedure => (fun procedure => ["EXECUTE PROCEDURE", procedure]) <$> c.procedure.partText d

/-- The clauses of a trigger with their texts, rendered in the order in which they stand. -/
def sequence (d : Dialect) (c : CreateTrigger Expr) : Rendering (List (TriggerClause × String)) :=
  (c.emitted d.triggers.create).mapM fun k =>
    (fun words => (k, Text.joinFull " " words)) <$> c.words d k

/-- What a clause is drafted to. -/
def drafts (g : Grammar) (c : CreateTrigger Expr) : TriggerClause → List Draft
  | .create => [.text "CREATE"]
  | .constraint => [.text "CONSTRAINT"]
  | .name => .text "TRIGGER" :: (c.name.piece g).part
  | .definer => .text "DEFINER =" :: (c.definer.piece g).part
  | .time => (c.time.piece g).part
  | .event => (c.event.piece g).part
  | .columns => [.text "OF", .join ", " (Piece.drafts (c.columns.map (Expr.piece g)))]
  | .table => .text "ON" :: (c.table.piece g).part
  | .referencedTable => (c.referencedTable.piece g).clause "FROM"
  | .timing => (c.timing.piece g).part
  | .each =>
    if c.forcesRow g.triggers.create then [.text TriggerEach.row.text] else (c.each.piece g).part
  | .condition =>
    .text "WHEN" ::
      if g.triggers.create.has .parenthesizedCondition then [(c.condition.piece g).grouped]
      else (c.condition.piece g).part
  | .order => (c.order.piece g).part ++ (c.orderTrigger.piece g).part
  | .body =>
    [.text "BEGIN", .join " " (Piece.drafts ((c.body.getD []).map (Expr.piece g))), .text "END;"]
  | .procedure => .text "EXECUTE PROCEDURE" :: (c.procedure.piece g).part

/-! ## Drafts -/

variable {g : Grammar} {d : Dialect}

/-- The drafts of a clause, or none if the trigger does not have it. -/
def ownDrafts (g : Grammar) (c : CreateTrigger Expr) (k : TriggerClause) : List Draft :=
  if c.emits g.triggers.create k then c.drafts g k else []

theorem ownDrafts_of_isNull {c : CreateTrigger Expr} {k : TriggerClause} {e : Expr}
    (hemits : c.emits g.triggers.create k = !e.isNull)
    (hdrafts : c.drafts g k = (e.piece g).part) : c.ownDrafts g k = (e.piece g).part := by
  rw [ownDrafts, hemits, hdrafts]
  cases h : e.isNull with
  | true =>
      rw [Expr.part_of_isNull h]
      rfl
  | false => rfl

section Parts

variable (g) (c : CreateTrigger Expr)

theorem definer_eq :
    (if !(c.map (Expr.piece g)).definer.isAbsent && g.triggers.create.has .definer then
        .text "DEFINER =" :: (c.map (Expr.piece g)).definer.part
      else []) = c.ownDrafts g .definer := by
  have habsent : (c.map (Expr.piece g)).definer.isAbsent = c.definer.isNull :=
    Expr.isAbsent_piece c.definer
  rw [habsent, Bool.and_comm]
  rfl

theorem columns_eq :
    (if !(c.map (Expr.piece g)).columns.isEmpty && g.triggers.create.has .updateColumns then
        [.text "OF", .join ", " (Piece.drafts (c.map (Expr.piece g)).columns)]
      else []) = c.ownDrafts g .columns := by
  have hempty : (c.map (Expr.piece g)).columns.isEmpty = c.columns.isEmpty := List.isEmpty_map
  rw [hempty, Bool.and_comm]
  rfl

theorem constraintParts_eq :
    (if g.triggers.create.has .constraints then
        (c.map (Expr.piece g)).referencedTable.clause "FROM" ++ (c.map (Expr.piece g)).timing.part
      else []) = c.ownDrafts g .referencedTable ++ c.ownDrafts g .timing := by
  have hparts : (c.map (Expr.piece g)).referencedTable.clause "FROM" ++
      (c.map (Expr.piece g)).timing.part =
        (c.referencedTable.piece g).clause "FROM" ++ (c.timing.piece g).part := rfl
  rw [hparts]
  by_cases known : g.triggers.create.has .constraints <;>
    cases hnull : c.referencedTable.isNull <;> cases hnull' : c.timing.isNull <;>
    simp [ownDrafts, emits, drafts, known, hnull, hnull', Expr.part_of_isNull,
      Expr.clause_of_isNull]

theorem eachClause_eq :
    (c.map (Expr.piece g)).eachClause g.triggers.create = c.ownDrafts g .each := by
  have hforced : (g.triggers.create.has .rowRequired || (g.triggers.create.has .forEach &&
      g.triggers.create.has .constraints && (c.map (Expr.piece g)).isConstraint.holds)) =
        c.forcesRow g.triggers.create := rfl
  have heach : (c.map (Expr.piece g)).each.part = (c.each.piece g).part := rfl
  rw [eachClause, hforced, heach]
  by_cases forced : c.forcesRow g.triggers.create <;>
    by_cases known : g.triggers.create.has .forEach <;> cases hnull : c.each.isNull <;>
    simp [ownDrafts, emits, drafts, forced, known, hnull, Expr.part_of_isNull]

theorem conditionClause_eq :
    (c.map (Expr.piece g)).conditionClause g.triggers.create = c.ownDrafts g .condition := by
  have habsent : (c.map (Expr.piece g)).condition.isAbsent = c.condition.isNull :=
    Expr.isAbsent_piece c.condition
  rw [conditionClause, habsent, Bool.and_comm]
  rfl

theorem order_eq :
    (if !(c.map (Expr.piece g)).order.isAbsent && !(c.map (Expr.piece g)).orderTrigger.isAbsent &&
          g.triggers.create.has .order then
        (c.map (Expr.piece g)).order.part ++ (c.map (Expr.piece g)).orderTrigger.part
      else []) = c.ownDrafts g .order := by
  have horder : (c.map (Expr.piece g)).order.isAbsent = c.order.isNull :=
    Expr.isAbsent_piece c.order
  have htrigger : (c.map (Expr.piece g)).orderTrigger.isAbsent = c.orderTrigger.isNull :=
    Expr.isAbsent_piece c.orderTrigger
  rw [horder, htrigger, Bool.and_comm, ← Bool.and_assoc]
  rfl

theorem action_eq :
    (c.map (Expr.piece g)).action g.triggers.create =
      c.ownDrafts g .body ++ c.ownDrafts g .procedure := by
  have hbody : (c.map (Expr.piece g)).body = c.body.map (·.map (Expr.piece g)) := rfl
  have habsent : (c.map (Expr.piece g)).procedure.isAbsent = c.procedure.isNull :=
    Expr.isAbsent_piece c.procedure
  rw [action, hbody, habsent]
  unfold ownDrafts emits drafts
  simp only
  generalize g.triggers.create.has .body = known
  cases known <;> cases c.body <;> cases c.procedure.isNull <;> rfl

theorem clauses_eq :
    (c.map (Expr.piece g)).clauses g.triggers.create =
      (c.emitted g.triggers.create).flatMap (c.drafts g) := by
  have hsplit : (c.emitted g.triggers.create).flatMap (c.drafts g) =
      TriggerClause.all.flatMap (c.ownDrafts g) :=
    flatMap_filter ..
  have htime := ownDrafts_of_isNull (g := g) (c := c) (k := .time) rfl rfl
  have hevent := ownDrafts_of_isNull (g := g) (c := c) (k := .event) rfl rfl
  rw [hsplit, TriggerClause.all, clauses, eachClause_eq, conditionClause_eq, action_eq, definer_eq,
    columns_eq, constraintParts_eq, order_eq]
  simp only [List.flatMap_cons, List.flatMap_nil, htime, hevent, List.append_assoc,
    List.cons_append, List.append_nil]
  rfl

end Parts

/-! ## Texts -/

/-- A word before other drafts is the first text that they add to a phrase. -/
theorem fullTexts_word {placeholder : Int → String} (word : String) {ds : List Draft}
    {texts : Rendering (List String)} (h : Draft.fullTexts placeholder ds = Text.full <$> texts) :
    Draft.fullTexts placeholder (.text word :: ds) =
      Text.full <$> (fun more => word :: more) <$> texts := by
  have hword : Draft.fullTexts placeholder [.text word] = pure (Text.full [word]) :=
    Draft.fullTexts_words [word]
  rw [← List.singleton_append, Draft.fullTexts_append, hword, h]
  simp [← Text.full_append]

theorem fullTexts_drafts (c : CreateTrigger Expr) (k : TriggerClause) :
    Draft.fullTexts d.placeholder (c.drafts d.toGrammar k) = Text.full <$> c.words d k := by
  have part (e : Expr) : Draft.fullTexts d.placeholder (e.piece d.toGrammar).part =
      Text.full <$> (fun text => [text]) <$> e.partText d := by
    rw [Expr.fullTexts_part, Functor.map_map]
  have wordPart (word : String) (e : Expr) :
      Draft.fullTexts d.placeholder (.text word :: (e.piece d.toGrammar).part) =
        Text.full <$> (fun text => [word, text]) <$> e.partText d :=
    (fullTexts_word word (part e)).trans (congrArg (Text.full <$> ·) (Functor.map_map ..))
  have items (separator : String) (es : List Expr) :
      Draft.fullTexts d.placeholder
          [.join separator (Piece.drafts (es.map (Expr.piece d.toGrammar)))] =
        Text.full <$> (fun texts => [Text.joinFull separator texts]) <$> Expr.itemTexts d es := by
    rw [Expr.fullTexts_items, Functor.map_map]
  cases k with
  | create => exact Draft.fullTexts_words ["CREATE"]
  | constraint => exact Draft.fullTexts_words ["CONSTRAINT"]
  | name => exact wordPart "TRIGGER" c.name
  | definer => exact wordPart "DEFINER =" c.definer
  | time => exact part c.time
  | event => exact part c.event
  | columns =>
      exact (fullTexts_word "OF" (items ", " c.columns)).trans
        (congrArg (Text.full <$> ·) (Functor.map_map ..))
  | table => exact wordPart "ON" c.table
  | referencedTable =>
      rw [drafts, Expr.fullTexts_clause, words, Functor.map_map]
  | timing => exact part c.timing
  | each =>
      rw [drafts, words]
      split
      · exact Draft.fullTexts_words [TriggerEach.row.text]
      · exact part c.each
  | condition =>
      rw [drafts, words]
      split
      · have hgroup : Draft.fullTexts d.placeholder [(c.condition.piece d.toGrammar).grouped] =
            Text.full <$> (fun text => [text]) <$> c.condition.groupText d := by
          rw [Draft.fullTexts_single, Expr.grouped_piece, Functor.map_map]
          rfl
        exact (fullTexts_word "WHEN" hgroup).trans
          (congrArg (Text.full <$> ·) (Functor.map_map ..))
      · exact wordPart "WHEN" c.condition
  | order =>
      rw [drafts, words, Draft.fullTexts_append, part, part]
      simp [← Text.full_append]
  | body =>
      have hend : Draft.fullTexts d.placeholder [.text "END;"] = pure (Text.full ["END;"]) :=
        Draft.fullTexts_words ["END;"]
      have hstatements : Draft.fullTexts d.placeholder
          ([.join " " (Piece.drafts ((c.body.getD []).map (Expr.piece d.toGrammar)))] ++
            [.text "END;"]) =
          Text.full <$> (fun texts => [Text.joinFull " " texts, "END;"]) <$>
            Expr.itemTexts d (c.body.getD []) := by
        rw [Draft.fullTexts_append, items, hend]
        simp [← Text.full_append]
      exact (fullTexts_word "BEGIN" hstatements).trans
        (congrArg (Text.full <$> ·) (Functor.map_map ..))
  | procedure => exact wordPart "EXECUTE PROCEDURE" c.procedure

/-- The texts of the clauses are those of their words put together. -/
theorem map_sequence (c : CreateTrigger Expr) :
    List.map Prod.snd <$> c.sequence d =
      List.map (Text.joinFull " ") <$> (c.emitted d.triggers.create).mapM (c.words d) := by
  rw [sequence, ← Rendering.mapM_map_result, ← Rendering.mapM_map_result]
  simp only [Functor.map_map]

/-- A trigger that breaks no rule is a phrase of its clauses. -/
theorem draft_eq {c : CreateTrigger Expr}
    (kept : (c.map (Expr.piece g)).broken? g.triggers.create = none) :
    (Expr.node (.createTrigger c)).draft g =
      .phrase ((c.emitted g.triggers.create).flatMap (c.drafts g)) := by
  rw [Expr.draft_node]
  show (c.map (Expr.piece g)).draft g = _
  rw [draft, kept, clauses_eq]

/-- A trigger that breaks no rule renders to its clauses. -/
theorem render_sequence {c : CreateTrigger Expr}
    (kept : (c.map (Expr.piece d.toGrammar)).broken? d.triggers.create = none) :
    Rendering.render ((Expr.node (.createTrigger c)).render d) =
      (fun clauses => Text.joinFull " " (clauses.map Prod.snd)) <$> c.sequence d := by
  have hjoin : (fun clauses => Text.joinFull " " (clauses.map Prod.snd)) <$> c.sequence d =
      Text.joinFull " " <$> List.map Prod.snd <$> c.sequence d := by
    rw [Functor.map_map]
  rw [Expr.render, draft_eq kept, Draft.render_phrase,
    Draft.fullTexts_flatMap (c.fullTexts_drafts (d := d)), hjoin, map_sequence, Functor.map_map,
    Functor.map_map]
  exact congrArg (· <$> _) (funext fun texts => Text.joinFull_flatten " " texts)

end CreateTrigger

end SqlRender
