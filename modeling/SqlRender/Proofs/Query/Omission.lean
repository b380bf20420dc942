import SqlRender.Proofs.Query.Sentence
import SqlRender.Proofs.Render.Thinning

/-!
# What a query leaves out

Entries of a query that render to nothing might as well not be there: without them the text and the
values are the same, and a clause that is left without text goes with its keyword
(`Select.render_omits`). That an entry has no text does not depend on what was rendered before, and
an entry without text binds no value, so that nothing after it is numbered otherwise.
-/

namespace SqlRender

open Rendering

variable {d : Dialect}

/-- Somewhere a rendering gives a result. -/
def Rendering.Gives {α : Type} (m : Rendering α) (a : α) : Prop :=
  ∃ s t, m s = .ok a t

namespace Rendering.Gives

variable {α β : Type}

theorem bind {m : Rendering α} {k : α → Rendering β} {b : β} (h : (m >>= k).Gives b) :
    ∃ a, m.Gives a ∧ (k a).Gives b := by
  obtain ⟨s, u, h⟩ := h
  obtain ⟨a, t, hm, hk⟩ := bind_eq_ok.1 h
  exact ⟨a, ⟨s, t, hm⟩, ⟨t, u, hk⟩⟩

theorem pure {a b : α} (h : Gives (Pure.pure a) b) : a = b := by
  obtain ⟨s, t, h⟩ := h
  exact (pure_eq_ok.1 h).1

/-- Of several renderings in turn each has given its own result. -/
theorem mapM {f : α → Rendering β} {xs : List α} {bs : List β} (h : (xs.mapM f).Gives bs) :
    List.Forall₂ (fun x b => (f x).Gives b) xs bs := by
  induction xs generalizing bs with
  | nil =>
      rw [List.mapM_nil] at h
      rw [← h.pure]
      exact .nil
  | cons x xs ih =>
      rw [List.mapM_cons] at h
      obtain ⟨b, hb, hrest⟩ := h.bind
      obtain ⟨bs', hbs, hpure⟩ := hrest.bind
      rw [← hpure.pure]
      exact .cons hb (ih hbs)

end Rendering.Gives

/-! ## Entries that render to nothing -/

namespace Expr

/-- Whether an expression renders to nothing is told by its draft. -/
theorem isBlank_of_gives (visible : ∀ n : Nat, d.placeholder (n + 1) ≠ "") {e : Expr}
    {text : String} (h : (Rendering.render (e.render d)).Gives text) :
    (e.draft d.toGrammar).isBlank = true ↔ text = "" := by
  obtain ⟨s, t, h⟩ := h
  obtain ⟨htext, -, -⟩ := render_spec (Draft.run_appends visible (e.draft d.toGrammar)) h
  rw [htext, Segment.write_eq_empty visible]
  rfl

/-- A missing expression cannot be rendered on its own. -/
theorem isNull_of_gives {e : Expr} {text : String}
    (h : (Rendering.render (e.render d)).Gives text) : e.isNull = false := by
  obtain ⟨s, t, h⟩ := h
  cases e with
  | value v =>
      cases v with
      | null => cases h
      | _ => rfl
  | sequence _ _ => rfl
  | node _ => rfl

/-- Whether the body of a clause has text does not depend on what was rendered before. -/
theorem bodyText_eq_empty (visible : ∀ n : Nat, d.placeholder (n + 1) ≠ "") {e : Expr}
    {text : String} (h : (e.bodyText d).Gives text) : text = "" ↔ (e.bodyText d).Gives "" := by
  constructor
  · rintro rfl
    exact h
  · intro hnone
    rw [bodyText] at h hnone
    cases hnull : e.isNull with
    | true =>
        rw [hnull, if_pos rfl] at h
        exact h.pure.symm
    | false =>
        rw [hnull, if_neg Bool.false_ne_true] at h hnone
        exact (isBlank_of_gives visible h).1 ((isBlank_of_gives visible hnone).2 rfl)

/-- Items that were rendered in turn have no text exactly if each renders to nothing. -/
theorem itemTexts_eq_empty (visible : ∀ n : Nat, d.placeholder (n + 1) ≠ "") {es : List Expr}
    {texts : List String} (h : (itemTexts d es).Gives texts) :
    (∀ text ∈ texts, text = "") ↔ ∀ e ∈ es, (e.bodyText d).Gives "" := by
  have heach := h.mapM
  clear h
  induction heach with
  | nil => simp
  | @cons e text es texts hgives _ ih =>
      have hbody : (e.bodyText d).Gives text := by
        rw [bodyText, isNull_of_gives hgives]
        exact hgives
      rw [List.forall_mem_cons, List.forall_mem_cons]
      exact and_congr (bodyText_eq_empty visible hbody) ih

/-- The second list is the first without some expressions that render to nothing. -/
inductive Omits (d : Dialect) : List Expr → List Expr → Prop where
  | nil : Omits d [] []
  | keep {es es' : List Expr} (e : Expr) : Omits d es es' → Omits d (e :: es) (e :: es')
  | drop {e : Expr} {es es' : List Expr} : (Rendering.render (e.render d)).Gives "" →
    Omits d es es' → Omits d (e :: es) es'

theorem Omits.thins (visible : ∀ n : Nat, d.placeholder (n + 1) ≠ "") {es es' : List Expr}
    (h : Omits d es es') :
    Draft.Thins (Piece.drafts (es.map (piece d.toGrammar)))
      (Piece.drafts (es'.map (piece d.toGrammar))) := by
  induction h with
  | nil => exact .nil
  | keep e _ ih => exact .keep (.refl _) ih
  | drop hnone _ ih => exact .drop ((isBlank_of_gives visible hnone).2 rfl) ih

/-- A clause whose body renders to nothing may be left out. -/
theorem thins_clause (visible : ∀ n : Nat, d.placeholder (n + 1) ≠ "") (keyword : String)
    {e e' : Expr} (h : e' = e ∨ e' = .absent ∧ (e.bodyText d).Gives "") :
    Draft.Thins ((e.piece d.toGrammar).clause keyword) ((e'.piece d.toGrammar).clause keyword) := by
  rcases h with rfl | ⟨rfl, hnone⟩
  · exact .refl _
  · have habsent : ((Expr.absent).piece d.toGrammar).clause keyword = [] := rfl
    rw [habsent, Piece.clause, isAbsent_piece]
    rw [bodyText] at hnone
    -- an absent entry has no clause to leave out, and no text could be asked of it
    cases hnull : e.isNull with
    | true => exact .nil
    | false =>
        rw [hnull, if_neg Bool.false_ne_true] at hnone
        refine .drop ?_ .nil
        rw [Draft.isBlank_clause]
        exact (isBlank_of_gives visible hnone).2 rfl

/-- A part of a phrase that has no text may be left out. -/
theorem thins_part (visible : ∀ n : Nat, d.placeholder (n + 1) ≠ "") {e e' : Expr}
    (h : e' = e ∨ e' = .absent ∧ (e.partText d).Gives "") :
    Draft.Thins (e.piece d.toGrammar).part (e'.piece d.toGrammar).part := by
  rcases h with rfl | ⟨rfl, hnone⟩
  · exact .refl _
  · have habsent : ((Expr.absent).piece d.toGrammar).part = [] := rfl
    rw [habsent]
    rcases e.part_cases d with rfl | ⟨s, rfl⟩ | ⟨hpart, htext⟩
    · exact .nil
    · have hs : s = "" := hnone.pure
      refine .drop ?_ .nil
      rw [Draft.isBlank_text, hs]
      rfl
    · rw [htext] at hnone
      rw [hpart]
      exact .drop ((isBlank_of_gives visible hnone).2 rfl) .nil

end Expr

/-! ## The text of a query -/

namespace Select

/-- The clauses of a query that have a keyword. -/
inductive Clause where
  | tables
  | predicate
  | groupBy
  | having
  | orderBy

namespace Clause

def keyword : Clause → String
  | .tables => "FROM"
  | .predicate => "WHERE"
  | .groupBy => "GROUP BY"
  | .having => "HAVING"
  | .orderBy => "ORDER BY"

/-- What stands in a clause. -/
def entries {ε : Type} (s : Select ε) : Clause → List ε
  | .tables => s.tables
  | .predicate => [s.predicate]
  | .groupBy => s.groupBy
  | .having => [s.having]
  | .orderBy => s.orderBy

/-- The text of a clause, from the texts of the parts of the query. -/
def text (texts : Select String) (c : Clause) : String :=
  Text.clause c.keyword (Text.joinFull ", " (c.entries texts))

end Clause

/-- The texts of the parts of a query, rendered in the order in which they stand. -/
def texts (d : Dialect) (s : Select Expr) : Rendering (Select String) := do
  let columns ← Expr.itemTexts d s.columns
  let tables ← Expr.itemTexts d s.tables
  let joins ← Expr.itemTexts d s.joins
  let predicate ← s.predicate.bodyText d
  let groupBy ← Expr.itemTexts d s.groupBy
  let having ← s.having.bodyText d
  let orderBy ← Expr.itemTexts d s.orderBy
  let locking ← s.locking.partText d
  return ⟨columns, tables, s.distinct, joins, predicate, groupBy, having, orderBy, s.limit,
    s.offset, locking⟩

/-- The text of a query, from the texts of its parts: those that are not empty, with spaces between
them. -/
def sentence (standIn : Option String) (t : Select String) : String :=
  Text.joinFull " "
    (["SELECT", if t.distinct.holds then "DISTINCT" else "", Text.joinFull ", " t.columns,
      Clause.tables.text t, Text.joinFull " " t.joins, Clause.predicate.text t,
      Clause.groupBy.text t, Clause.having.text t, Clause.orderBy.text t] ++
      limitTexts standIn t.limit t.offset ++ [t.locking])

theorem render_sentence (s : Select Expr) :
    Rendering.render ((Expr.node (.select s)).render d) =
      sentence d.offsetWithoutLimit <$> s.texts d := by
  have word (condition : Bool) (word : String) :
      Draft.fullTexts d.placeholder (Draft.wordIf condition word) =
        pure (Text.full [if condition then word else ""]) := by
    cases condition with
    | true => exact Draft.fullTexts_words [word]
    | false => rfl
  have start : Draft.fullTexts d.placeholder [.text "SELECT"] = pure (Text.full ["SELECT"]) :=
    Draft.fullTexts_words ["SELECT"]
  rw [Expr.render, Expr.draft_node]
  show Rendering.render ((draft d.toGrammar (s.map (Expr.piece d.toGrammar))).run _) = _
  rw [draft, map, ← List.singleton_append, Draft.render_phrase]
  simp only [Draft.fullTexts_append, start, word, Expr.fullTexts_items, Expr.fullTexts_part,
    Expr.fullTexts_clause, Draft.fullTexts_listClause, Expr.renderAll_drafts, limitOffset_eq,
    Draft.fullTexts_words]
  -- both sides render the same in turn, and differ in how the texts are put together
  simp only [texts, sentence, Clause.text, Clause.entries, Clause.keyword, Text.joinFull_single,
    bind_assoc, pure_bind, bind_pure_comp, bind_map_left, map_bind, map_pure, Functor.map_map]
  simp only [Text.joinFull, ← Text.full_append, List.cons_append, List.nil_append]

/-! ## Clauses without text -/

/-- A clause has no text exactly if all that stands in it is missing or renders to nothing. -/
theorem clause_text_eq_empty (visible : ∀ n : Nat, d.placeholder (n + 1) ≠ "") {s : Select Expr}
    {t : Select String} (h : (s.texts d).Gives t) (c : Clause) :
    c.text t = "" ↔ ∀ e ∈ c.entries s, (e.bodyText d).Gives "" := by
  obtain ⟨columns, -, h⟩ := h.bind
  obtain ⟨tables, htables, h⟩ := h.bind
  obtain ⟨joins, -, h⟩ := h.bind
  obtain ⟨predicate, hpredicate, h⟩ := h.bind
  obtain ⟨groupBy, hgroupBy, h⟩ := h.bind
  obtain ⟨having, hhaving, h⟩ := h.bind
  obtain ⟨orderBy, horderBy, h⟩ := h.bind
  obtain ⟨locking, -, h⟩ := h.bind
  rw [Clause.text, Text.clause_eq_empty, Text.joinFull_eq_empty]
  obtain rfl := h.pure
  cases c with
  | tables => exact Expr.itemTexts_eq_empty visible htables
  | predicate =>
      rw [Clause.entries, Clause.entries, List.forall_mem_singleton, List.forall_mem_singleton]
      exact Expr.bodyText_eq_empty visible hpredicate
  | groupBy => exact Expr.itemTexts_eq_empty visible hgroupBy
  | having =>
      rw [Clause.entries, Clause.entries, List.forall_mem_singleton, List.forall_mem_singleton]
      exact Expr.bodyText_eq_empty visible hhaving
  | orderBy => exact Expr.itemTexts_eq_empty visible horderBy

/-! ## Leaving entries out -/

/-- The second query is the first without some parts that render to nothing. -/
structure Omits (d : Dialect) (s s' : Select Expr) : Prop where
  columns : Expr.Omits d s.columns s'.columns
  tables : Expr.Omits d s.tables s'.tables
  joins : Expr.Omits d s.joins s'.joins
  groupBy : Expr.Omits d s.groupBy s'.groupBy
  orderBy : Expr.Omits d s.orderBy s'.orderBy
  predicate : s'.predicate = s.predicate ∨
    s'.predicate = .absent ∧ (s.predicate.bodyText d).Gives ""
  having : s'.having = s.having ∨ s'.having = .absent ∧ (s.having.bodyText d).Gives ""
  locking : s'.locking = s.locking ∨ s'.locking = .absent ∧ (s.locking.partText d).Gives ""
  distinct : s'.distinct = s.distinct
  limit : s'.limit = s.limit
  offset : s'.offset = s.offset

/-- What is left of a query keeps its text. -/
theorem Omits.keeps (visible : ∀ n : Nat, d.placeholder (n + 1) ≠ "") {s s' : Select Expr}
    (h : s.Omits d s') :
    Draft.Keeps ((Expr.node (.select s)).draft d.toGrammar)
      ((Expr.node (.select s')).draft d.toGrammar) := by
  rw [Expr.draft_node, Expr.draft_node]
  show Draft.Keeps (draft d.toGrammar (s.map (Expr.piece d.toGrammar)))
    (draft d.toGrammar (s'.map (Expr.piece d.toGrammar)))
  rw [draft, draft, map, map, h.distinct, h.limit, h.offset]
  -- the phrase has ten runs of parts, and two of them, the opening and the limit, are the same
  refine Draft.Thins.phrase ?_
  refine .append (.append (.append (.append (.append (.append (.append (.append (.append (.refl _)
    ?_) ?_) ?_) ?_) ?_) ?_) ?_) (.refl _)) ?_
  · exact .keep ((h.columns.thins visible).join ", ") .nil
  · exact (h.tables.thins visible).listClause "FROM"
  · exact .keep ((h.joins.thins visible).join " ") .nil
  · exact Expr.thins_clause visible "WHERE" h.predicate
  · exact (h.groupBy.thins visible).listClause "GROUP BY"
  · exact Expr.thins_clause visible "HAVING" h.having
  · exact (h.orderBy.thins visible).listClause "ORDER BY"
  · exact Expr.thins_part visible h.locking

/-- **What a query leaves out.** If a query is rendered, after whatever was rendered before, then so
is what is left of it without parts that render to nothing, to the same text and the same values.
Its text is put together from the texts of its parts, and a clause adds nothing to it, nor its
keyword, if all that stands in it is missing or renders to nothing. -/
theorem render_omits (d : Dialect) (visible : ∀ n : Nat, d.placeholder (n + 1) ≠ "")
    (s : Select Expr) {before after : Serializer}
    (run : (Expr.node (.select s)).render d before = .ok () after) :
    (∀ s' : Select Expr, s.Omits d s' → ∃ after',
        (Expr.node (.select s')).render d before = .ok () after' ∧
          after'.sql = after.sql ∧ after'.binds = after.binds) ∧
      ∃ (t : Select String) (u : Serializer),
        s.texts d before = .ok t u ∧ after.sql = before.sql ++ t.sentence d.offsetWithoutLimit ∧
          ∀ c : Clause, c.text t = "" ↔ ∀ e ∈ c.entries s, (e.bodyText d).Gives "" := by
  have textual : IsTextual ((Expr.node (.select s)).render d) := by
    rw [Expr.render, Expr.draft, Expr.piece_node]
    exact Draft.phrase_isTextual _
  obtain ⟨text, u, hrender, hsql, hbinds, -⟩ :=
    exists_render (Expr.render_isLocal d _) textual run
  constructor
  · intro s' homits
    obtain ⟨u', hrender', hbinds'⟩ := (homits.keeps visible).exists_render visible hrender
    obtain ⟨after', hrun', hsql', hbinds'', -⟩ := exists_run (Expr.render_isLocal d _) hrender'
    exact ⟨after', hrun', hsql'.trans hsql.symm, hbinds''.trans (hbinds'.trans hbinds.symm)⟩
  · rw [render_sentence, map_eq_pure_bind, bind_eq_ok] at hrender
    obtain ⟨t, v, htexts, hpure⟩ := hrender
    obtain ⟨rfl, -⟩ := pure_eq_ok.1 hpure
    exact ⟨t, v, htexts, hsql, clause_text_eq_empty visible ⟨before, v, htexts⟩⟩

/-- A value in a column that a dialect cannot reach. -/
def unreached : Expr :=
  .node (.subpath (.node (.identifier "doc")) ["key"])

/-- A query with parts that render to nothing before others that bind values. -/
def sparse : Select Expr where
  columns := [unreached, .node (.bind (.value (.int 1)))]
  tables := [.node (.identifier "t")]
  predicate := unreached
  groupBy := [unreached, unreached]
  having := .absent
  orderBy := [unreached, .node (.bind (.value (.int 2)))]
  locking := .node (.raw "")

/-- The same query without these parts. -/
def dense : Select Expr where
  columns := [.node (.bind (.value (.int 1)))]
  tables := [.node (.identifier "t")]
  predicate := .absent
  having := .absent
  orderBy := [.node (.bind (.value (.int 2)))]
  locking := .absent

theorem render_omits_sparse :
    (∀ n : Nat, Dialect.generic.placeholder (n + 1) ≠ "") ∧ sparse.Omits .generic dense ∧
      ∃ after,
        (Expr.node (.select sparse)).render .generic ⟨⟨["WITH x AS (?) "], none⟩, [.null], []⟩ =
            .ok () after ∧
          after.sql = "WITH x AS (?) " ++ "SELECT ? FROM \"t\" ORDER BY ?" ∧
          after.binds = [.null, .int 1, .int 2] ∧
          ∃ after',
            (Expr.node (.select dense)).render .generic
                ⟨⟨["WITH x AS (?) "], none⟩, [.null], []⟩ = .ok () after' ∧
              after'.sql = after.sql ∧ after'.binds = after.binds := by
  have visible : ∀ n : Nat, Dialect.generic.placeholder (n + 1) ≠ "" := by
    intro n
    simp [Dialect.generic, Placeholder.qmark]
  have nothing : (Rendering.render (unreached.render .generic)).Gives "" := by
    refine ⟨{}, {}, ?_⟩
    simp only [unreached, Expr.render, Expr.draft, Expr.piece_node, Node.map]
    cbv
  have missing : (unreached.bodyText .generic).Gives "" := nothing
  have unlocked : ((Expr.node (.raw "")).partText .generic).Gives "" := by
    refine ⟨{}, {}, ?_⟩
    simp only [Expr.partText, Expr.render, Expr.draft, Expr.piece_node, Node.map]
    cbv
  have omits : sparse.Omits .generic dense :=
    { columns := .drop nothing (.keep _ .nil)
      tables := .keep _ .nil
      joins := .nil
      groupBy := .drop nothing (.drop nothing .nil)
      orderBy := .drop nothing (.keep _ .nil)
      predicate := .inr ⟨rfl, missing⟩
      having := .inl rfl
      locking := .inr ⟨rfl, unlocked⟩
      distinct := rfl
      limit := rfl
      offset := rfl }
  have run : (Expr.node (.select sparse)).render .generic
      ⟨⟨["WITH x AS (?) "], none⟩, [.null], []⟩ =
      .ok () ⟨⟨["WITH x AS (?) ", "SELECT", " ", "?", " ", "FROM \"t\"", " ", "ORDER BY ?"], none⟩,
        [.null, .int 1, .int 2], []⟩ := by
    simp only [sparse, unreached, Expr.absent, Expr.render, Expr.draft, Expr.piece_node,
      Expr.piece_value, Node.map, Select.map, List.map_cons, List.map_nil]
    cbv
  exact ⟨visible, omits, _, run, by decide +kernel, rfl,
    (render_omits .generic visible sparse run).1 dense omits⟩

end Select

end SqlRender
