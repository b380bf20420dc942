import SqlRender.Proofs.Dialect.Worded
import SqlRender.Proofs.Query.Rows
import SqlRender.Proofs.Text.TokenList

/-!
# Lists of names and cases

Names and cases are listed in parentheses in many places: the columns of an insertion, of a key or
of a reference, and the cases of a type. Items without text are left out of a list, but a name
without characters still has its marks, so that all of them are there, and they are read back from
the query in every such place (`Database.read_lists`).
-/

namespace SqlRender

open Rendering Text

/-- A dialect with the marks of a built-in one, whatever else it has. -/
def Dialect.HasBuiltinMarks (d : Dialect) : Prop :=
  ∃ base ∈ Dialect.builtin,
    d.identifierQuote = base.identifierQuote ∧ d.stringQuote = base.stringQuote

/-- The places for a list of names or cases. -/
inductive ListPlace where
  /-- Names in parentheses on their own. -/
  | group
  /-- The cases of a named type. -/
  | createEnum (name : String)
  /-- The cases in the type of a column. -/
  | enumDataType
  | primaryKey
  | unique
  /-- The columns that refer to others. -/
  | foreignKey (reference : Expr)
  /-- The columns of another table that are referred to. -/
  | referenced (table : String) (onDelete onUpdate : Expr)
  /-- The columns of an insertion. -/
  | insert (table : String) (rows : List (List Expr)) (query strategy returning : Expr)

namespace ListPlace

/-- The expression with a list in the place. -/
def expr (texts : List String) : ListPlace → Expr
  | .group => .node (.group (texts.map fun t : String => .node (.identifier t)))
  | .createEnum name => Expr.createEnum (.value (.text name)) (texts.map fun t => .value (.text t))
  | .enumDataType => Expr.enumDataType (texts.map fun t => .value (.text t))
  | .primaryKey => Expr.tableConstraint .primaryKey (texts.map fun t => .value (.text t))
  | .unique => Expr.tableConstraint .unique (texts.map fun t => .value (.text t))
  | .foreignKey reference =>
    Expr.tableConstraint .foreignKey (texts.map fun t => .value (.text t)) reference
  | .referenced table onDelete onUpdate =>
    Expr.foreignKey (.value (.text table)) (texts.map fun t => .value (.text t)) onDelete onUpdate
  | .insert table rows query strategy returning =>
    Insert.named table texts rows query strategy returning

/-- Whether the list is one of cases, which are texts and not names. -/
def isCases : ListPlace → Bool
  | .createEnum _ | .enumDataType => true
  | _ => false

/-- The mark of the tokens in a list. -/
def mark (g : Grammar) (place : ListPlace) : String :=
  if place.isCases then g.stringQuote else g.identifierQuote

/-- What is written before the list. -/
def before (g : Grammar) : ListPlace → String
  | .group => ""
  | .createEnum name => "CREATE TYPE " ++ g.quoteIdentifier name ++ " AS ENUM "
  | .enumDataType => "ENUM"
  | .primaryKey => "PRIMARY KEY "
  | .unique => "UNIQUE "
  | .foreignKey _ => "FOREIGN KEY "
  | .referenced table _ _ => "REFERENCES " ++ g.quoteIdentifier table ++ " "
  | .insert table _ _ strategy _ =>
    "INSERT " ++ (if (strategy.piece g).ignoresEarly.toOption = some true then "IGNORE " else "") ++
      "INTO " ++ g.quoteIdentifier table ++ " "

/-- Whether the list is written: cases in the type of a column where the dialect has them there, and
the columns of an insertion if there are any. -/
def isWritten (g : Grammar) (texts : List String) : ListPlace → Bool
  | .enumDataType => g.enumStyle = .inline
  | .insert _ _ _ _ _ => !texts.isEmpty
  | _ => true

/-- Whether nothing follows the list. -/
def isLast : ListPlace → Bool
  | .foreignKey _ | .referenced _ _ _ | .insert _ _ _ _ _ => false
  | _ => true

/-! ## Drafts -/

/-- The tokens of a list. -/
def tokens (g : Grammar) (texts : List String) (place : ListPlace) : List Draft :=
  (texts.map (quote (place.mark g))).map .text

/-- The words before a list that stands in a phrase. -/
def opening (g : Grammar) : ListPlace → List String
  | .createEnum name => ["CREATE TYPE", g.quoteIdentifier name, "AS ENUM"]
  | .referenced table _ _ => ["REFERENCES", g.quoteIdentifier table]
  | .insert table _ _ strategy _ =>
    "INSERT" :: (if (strategy.piece g).ignoresEarly.toOption = some true then ["IGNORE"] else []) ++
      ["INTO", g.quoteIdentifier table]
  | _ => []

/-- A phrase as far as to the end of the list. -/
def opened (g : Grammar) (texts : List String) (place : ListPlace) : List Draft :=
  (place.opening g).map .text ++ [.group (place.tokens g texts)]

variable {g : Grammar} {d : Dialect} {texts : List String}

theorem drafts_names (texts : List String) :
    Piece.drafts (((texts.map fun t => (.value (.text t) : Expr)).map Expr.orIdentifier).map
      (Expr.piece g)) = (texts.map (quote g.identifierQuote)).map .text := by
  rw [Piece.drafts, List.map_map, List.map_map, List.map_map, List.map_map]
  rfl

theorem drafts_cases (texts : List String) :
    Piece.drafts (((texts.map fun t => (.value (.text t) : Expr)).map Expr.orString).map
      (Expr.piece g)) = (texts.map (quote g.stringQuote)).map .text := by
  rw [Piece.drafts, List.map_map, List.map_map, List.map_map, List.map_map]
  rfl

theorem draft_group : (group.expr texts).draft g = .group (group.tokens g texts) := by
  rw [expr, Expr.draft_node]
  show Draft.group (Piece.drafts _) = _
  rw [Piece.drafts, List.map_map, List.map_map, tokens, List.map_map]
  rfl

theorem draft_createEnum (name : String) :
    ((createEnum name).expr texts).draft g =
      if g.enumStyle = .named then .phrase ((createEnum name).opened g texts)
      else .seq [.warn (.noNamedEnum g.name "CREATE TYPE"),
        .phrase ((createEnum name).opened g texts)] := by
  rw [expr, Expr.createEnum, Expr.draft_node]
  show Draft.createEnum g _ _ = _
  rw [Draft.createEnum, drafts_cases]
  rfl

theorem draft_enumDataType (inline : g.enumStyle = .inline) :
    (enumDataType.expr texts).draft g =
      .seq [.text "ENUM", .group (enumDataType.tokens g texts)] := by
  rw [expr, Expr.enumDataType, Expr.draft_node]
  show Draft.enumDataType g _ = _
  rw [Draft.enumDataType, inline, drafts_cases]
  rfl

theorem draft_primaryKey : (primaryKey.expr texts).draft g =
    .seq [.text "PRIMARY KEY ", .group (primaryKey.tokens g texts)] := by
  rw [expr, Expr.tableConstraint, Expr.draft_node]
  show Draft.seq [_, .group (Piece.drafts _)] = _
  rw [drafts_names]
  rfl

theorem draft_unique : (unique.expr texts).draft g =
    .seq [.text "UNIQUE ", .group (unique.tokens g texts)] := by
  rw [expr, Expr.tableConstraint, Expr.draft_node]
  show Draft.seq [_, .group (Piece.drafts _)] = _
  rw [drafts_names]
  rfl

theorem draft_foreignKey (reference : Expr) : ((foreignKey reference).expr texts).draft g =
    .seq ([.text "FOREIGN KEY ", .group ((foreignKey reference).tokens g texts)] ++
      [.text " ", reference.draft g]) := by
  rw [expr, Expr.tableConstraint, Expr.draft_node]
  show Draft.seq [_, .group (Piece.drafts _), _, _] = _
  rw [drafts_names]
  rfl

theorem draft_referenced (g : Grammar) (texts : List String) (table : String)
    (onDelete onUpdate : Expr) :
    ∃ more, ((referenced table onDelete onUpdate).expr texts).draft g =
      .phrase ((referenced table onDelete onUpdate).opened g texts ++ more) := by
  refine ⟨(onDelete.piece g).clause "ON DELETE" ++ (onUpdate.piece g).clause "ON UPDATE", ?_⟩
  rw [expr, Expr.foreignKey, Expr.draft_node]
  show Draft.foreignKey _ _ _ _ = _
  rw [Draft.foreignKey, drafts_names, List.append_assoc]
  rfl

theorem draft_insert (g : Grammar) (table : String) (rows : List (List Expr))
    (query strategy returning : Expr) (some : texts ≠ []) :
    (∃ fault, ((insert table rows query strategy returning).expr texts).draft g = .fail fault) ∨
      ∃ more, ((insert table rows query strategy returning).expr texts).draft g =
        .phrase ((insert table rows query strategy returning).opened g texts ++ more) := by
  have hdraft : ∃ i : Insert Piece,
      ((insert table rows query strategy returning).expr texts).draft g = i.draft ∧
        i.strategy = strategy.piece g ∧ i.table.part = [.text (g.quoteIdentifier table)] ∧
        i.columns.isEmpty = false ∧
        Piece.drafts i.columns = (texts.map (quote g.identifierQuote)).map .text := by
    refine ⟨_, by rw [expr, Insert.named, Expr.insert, Expr.draft_node]; rfl, rfl, rfl,
      ?_, drafts_names texts⟩
    show (((texts.map fun t => (.value (.text t) : Expr)).map Expr.orIdentifier).map
      (Expr.piece g)).isEmpty = false
    simpa using some
  obtain ⟨i, hdraft, hstrategy, htable, hsome, hcolumns⟩ := hdraft
  rw [hdraft, Insert.draft, hstrategy, opened, opening]
  cases (strategy.piece g).ignoresEarly with
  | error fault => exact .inl ⟨fault, rfl⟩
  | ok ignores =>
      refine .inr ⟨i.source ++ (strategy.piece g).part ++ i.returning.part, ?_⟩
      show Draft.phrase _ = _
      rw [hsome, htable, hcolumns]
      cases ignores <;> rfl

end ListPlace

/-! ## What comes first -/

/-- Of two texts with a separator between them, the first comes first. -/
theorem Text.exists_joinFull_pair (separator first second : String) :
    ∃ rest, joinFull separator [first, second] = first ++ rest := by
  rw [joinFull_eq, joinFrom, joinFrom, joinFrom, joinFrom]
  split
  · rename_i hempty
    rw [String.isEmpty_iff.1 hempty]
    exact ⟨_, (String.empty_append ..).symm⟩
  · exact ⟨_, by rw [if_pos rfl, String.empty_append]⟩

namespace Draft

variable {placeholder : Int → String}

/-- A phrase begins with what is known of its first half. -/
theorem phrase_begins {ds es : List Draft} {before : String}
    (h : render (run placeholder (.phrase ds)) = pure before) {s u : Serializer} {sql : String}
    (hrender : render (run placeholder (.phrase (ds ++ es))) s = .ok sql u) :
    ∃ rest, sql = before ++ rest := by
  rw [render_phrase_append, h, pure_bind, bind_eq_ok] at hrender
  obtain ⟨second, v, -, hpure⟩ := hrender
  rw [← (pure_eq_ok.1 hpure).1]
  exact Text.exists_joinFull_pair " " before second

/-- Drafts one after the other begin with what is known of the first ones. -/
theorem seq_begins {ds es : List Draft} {before : String}
    (h : render (run placeholder (.seq ds)) = pure before) {s u : Serializer} {sql : String}
    (hrender : render (run placeholder (.seq (ds ++ es))) s = .ok sql u) :
    ∃ rest, sql = before ++ rest := by
  obtain ⟨v, hrun, htext, -⟩ := render_eq_ok.1 hrender
  rw [run_seq_append, bind_eq_ok] at hrun
  obtain ⟨⟨⟩, w, hfirst, hrest⟩ := hrun
  obtain ⟨w', hfirst', hsql, -⟩ :=
    exists_run (run_isLocal placeholder (.seq ds)) (congrFun h { s with written := {} })
  obtain rfl : w = w' := by
    rw [hfirst] at hfirst'
    cases hfirst'
    rfl
  have hgrows := run_grows placeholder (.seq es) w
  rw [hrest] at hgrows
  obtain ⟨rest, hmore⟩ := hgrows.sql
  refine ⟨rest, ?_⟩
  rw [(Written.text_eq_ok.1 htext).2]
  exact hmore.trans (congrArg (· ++ rest) (hsql.trans (String.empty_append ..)))

end Draft

/-! ## Lists that are rendered -/

namespace ListPlace

variable {d : Dialect} {m : Char}

/-- The tokens of a list are rendered as they are, since each has its marks. -/
theorem render_list {mark : String} (h : mark.toList = [m]) (texts : List String) :
    Rendering.render (Draft.run d.placeholder (.group ((texts.map (quote mark)).map .text))) =
      pure (listText mark texts) := by
  have hfull : full (texts.map (quote mark)) = texts.map (quote mark) :=
    full_eq_self fun token hmem => by
      obtain ⟨text, -, rfl⟩ := List.mem_map.1 hmem
      exact quote_ne h text
  rw [Draft.render_group, Draft.renderAll_texts, map_pure, joinFull, hfull]
  rfl

/-- A word and a list in parentheses. -/
theorem render_call {mark : String} (h : mark.toList = [m]) (name : String) (texts : List String) :
    Rendering.render (Draft.run d.placeholder
        (.seq [.text name, .group ((texts.map (quote mark)).map .text)])) =
      pure (name ++ listText mark texts) := by
  have hlist := congrArg (fun text => (name ++ ·) <$> text) (render_list (d := d) h texts)
  rw [Draft.render_group, Functor.map_map, map_pure] at hlist
  rw [Draft.render_call]
  exact hlist

/-- What goes before a list in a phrase is the words there, each with a space after it. -/
theorem intercalate_opening (place : ListPlace) (some : place.opening d.toGrammar ≠ []) :
    " ".intercalate (place.opening d.toGrammar) ++ " " = place.before d.toGrammar := by
  rw [← String.toList_inj]
  cases place with
  | createEnum name => simp [opening, before]
  | referenced table onDelete onUpdate => simp [opening, before]
  | insert table rows query strategy returning =>
      by_cases ignores : (strategy.piece d.toGrammar).ignoresEarly.toOption = Option.some true <;>
        simp [opening, before, ignores]
  | _ => exact absurd rfl some

theorem opening_ne (place : ListPlace) {q : Char} (hq : d.identifierQuote.toList = [q]) :
    ∀ word ∈ place.opening d.toGrammar, word ≠ "" := by
  have visible (name : String) : d.quoteIdentifier name ≠ "" := quote_ne hq name
  cases place with
  | createEnum name => simp [opening, visible]
  | referenced table onDelete onUpdate => simp [opening, visible]
  | insert table rows query strategy returning =>
      by_cases ignores : (strategy.piece d.toGrammar).ignoresEarly.toOption = Option.some true <;>
        simp [opening, ignores, visible]
  | _ =>
      intro word hmem
      cases hmem

/-- A list at the end of a phrase. -/
theorem render_opened (place : ListPlace) (some : place.opening d.toGrammar ≠ [])
    (hname : ∃ q, d.identifierQuote.toList = [q]) (hmark : (place.mark d.toGrammar).toList = [m])
    (texts : List String) :
    Rendering.render (Draft.run d.placeholder (.phrase (place.opened d.toGrammar texts))) =
      pure (place.before d.toGrammar ++ listText (place.mark d.toGrammar) texts) := by
  obtain ⟨q, hq⟩ := hname
  have hlist : listText (place.mark d.toGrammar) texts ≠ "" := by
    intro hempty
    have hlength := congrArg String.length hempty
    simp [listText] at hlength
  rw [opened, tokens, Draft.render_words_append (render_list hmark texts), map_pure, joinFull,
    full_eq_self, String.intercalate_append_of_ne_nil some (List.cons_ne_nil _ _),
    String.intercalate_singleton, place.intercalate_opening some]
  intro word hword
  rcases List.mem_append.1 hword with hmem | hmem
  · exact place.opening_ne hq word hmem
  · rw [List.mem_singleton.1 hmem]
    exact hlist

/-- A warning that goes before a draft is not in its text. -/
theorem render_warned (warning : Warning) (draft : Draft) (s : Serializer) :
    Rendering.render (Draft.run d.placeholder (.seq [.warn warning, draft])) s =
      Rendering.render (draft.run d.placeholder)
        { s with warnings := s.warnings ++ [warning] } := by
  have hrun : Draft.run d.placeholder (.seq [.warn warning, draft]) =
      Rendering.warn warning >>= fun _ => draft.run d.placeholder := by
    rw [Draft.run, Draft.runAll, Draft.runAll, Draft.runAll, bind_pure_unit, Draft.run]
  rw [hrun, render_eq, render_eq]
  rfl

/-- Where nothing follows a list, the text is what goes before the list and the list. -/
theorem render_last (place : ListPlace) (last : place.isLast = true) {texts : List String}
    (written : place.isWritten d.toGrammar texts = true)
    (hname : ∃ q, d.identifierQuote.toList = [q]) (hmark : (place.mark d.toGrammar).toList = [m]) :
    ∃ warnings, ∀ s, Rendering.render ((place.expr texts).render d) s =
      .ok (place.before d.toGrammar ++ listText (place.mark d.toGrammar) texts)
        { s with warnings := s.warnings ++ warnings } := by
  cases place with
  | group =>
      refine ⟨[], fun s => ?_⟩
      rw [Expr.render, draft_group, tokens, render_list hmark, before, String.empty_append,
        List.append_nil]
      rfl
  | createEnum name =>
      have hopened :=
        (createEnum name).render_opened (d := d) (List.cons_ne_nil _ _) hname hmark texts
      rw [Expr.render, draft_createEnum]
      by_cases named : d.enumStyle = .named
      · refine ⟨[], fun s => ?_⟩
        rw [if_pos named, List.append_nil]
        exact congrFun hopened s
      · refine ⟨[.noNamedEnum d.name "CREATE TYPE"], fun s => ?_⟩
        rw [if_neg named, render_warned]
        exact congrFun hopened _
  | enumDataType =>
      refine ⟨[], fun s => ?_⟩
      have inline : d.enumStyle = .inline := of_decide_eq_true written
      rw [Expr.render, draft_enumDataType inline, tokens, render_call hmark, List.append_nil]
      rfl
  | primaryKey =>
      refine ⟨[], fun s => ?_⟩
      rw [Expr.render, draft_primaryKey, List.append_nil]
      exact congrFun (render_call hmark "PRIMARY KEY " texts) s
  | unique =>
      refine ⟨[], fun s => ?_⟩
      rw [Expr.render, draft_unique, List.append_nil]
      exact congrFun (render_call hmark "UNIQUE " texts) s
  | _ => cases last

/-- Whatever follows a list, the text begins with what goes before the list and the list. -/
theorem render_begins (place : ListPlace) {texts : List String}
    (written : place.isWritten d.toGrammar texts = true)
    (hname : ∃ q, d.identifierQuote.toList = [q]) (hmark : (place.mark d.toGrammar).toList = [m])
    {s u : Serializer} {sql : String}
    (h : Rendering.render ((place.expr texts).render d) s = .ok sql u) :
    ∃ rest, sql =
      place.before d.toGrammar ++ listText (place.mark d.toGrammar) texts ++ rest := by
  by_cases last : place.isLast = true
  · obtain ⟨warnings, hlast⟩ := place.render_last last written hname hmark
    rw [hlast] at h
    cases h
    exact ⟨"", (String.append_empty ..).symm⟩
  · have hopened (some : place.opening d.toGrammar ≠ []) :=
      place.render_opened some hname hmark texts
    cases place with
    | foreignKey reference =>
        rw [Expr.render, draft_foreignKey] at h
        exact Draft.seq_begins (render_call hmark "FOREIGN KEY " texts) h
    | referenced table onDelete onUpdate =>
        obtain ⟨more, hdraft⟩ := draft_referenced d.toGrammar texts table onDelete onUpdate
        rw [Expr.render, hdraft] at h
        exact Draft.phrase_begins (hopened (List.cons_ne_nil _ _)) h
    | insert table rows query strategy returning =>
        have some : texts ≠ [] := by simpa [isWritten] using written
        rcases draft_insert d.toGrammar table rows query strategy returning some with
          ⟨fault, hdraft⟩ | ⟨more, hdraft⟩
        · rw [Expr.render, hdraft] at h
          cases h
        · rw [Expr.render, hdraft] at h
          exact Draft.phrase_begins (hopened (List.cons_ne_nil _ _)) h
    | _ => exact absurd rfl last

end ListPlace

/-- The marks of names and of texts have one character each, which neither parts nor closes a
list. -/
theorem Dialect.HasBuiltinMarks.exists_mark {d : Dialect} (marks : d.HasBuiltinMarks)
    (place : ListPlace) :
    (∃ q, d.identifierQuote.toList = [q]) ∧
      ∃ m, (place.mark d.toGrammar).toList = [m] ∧ m ≠ ',' ∧ m ≠ ')' := by
  obtain ⟨base, hbase, hidentifier, hstring⟩ := marks
  obtain ⟨q, hq, hqmark⟩ := (Dialect.legible_builtin hbase).identifierMark
  obtain ⟨p, hp, hpmark⟩ := (Dialect.legible_builtin hbase).stringMark
  have apart {m : Char} (h : m = '\'' ∨ m = '"' ∨ m = '`') : m ≠ ',' ∧ m ≠ ')' := by
    rcases h with rfl | rfl | rfl <;> decide
  refine ⟨⟨q, hidentifier ▸ hq⟩, ?_⟩
  rw [ListPlace.mark]
  split
  · exact ⟨p, hstring ▸ hp, apart hpmark⟩
  · exact ⟨q, hidentifier ▸ hq, apart hqmark⟩

theorem Dialect.IsBuiltin.hasBuiltinMarks {d : Dialect} (h : d.IsBuiltin) : d.HasBuiltinMarks := by
  obtain ⟨base, hbase, style, hstyle⟩ := h
  have hgrammar := (withParamStyle_eq hstyle).1
  exact ⟨base, hbase, by rw [hgrammar], by rw [hgrammar]⟩

namespace Database

variable {db : Database} (elapsed : Float)

/-- **Lists are read back.** With the marks of a built-in dialect, whatever else it has: in every
place for a list of names or cases a query that comes of it has the list where it is expected, and
the names or cases are read back from it as they were given, in order, whatever their characters and
whatever follows; and where nothing follows there is such a query. -/
theorem read_lists (marks : db.dialect.HasBuiltinMarks) (place : ListPlace) (texts : List String)
    (written : place.isWritten db.dialect.toGrammar texts = true) :
    ∃ m, (place.mark db.dialect.toGrammar).toList = [m] ∧
      (∀ sql binds, (db.render elapsed (place.expr texts)).outcome = .ok ⟨sql, binds⟩ →
        ∃ rest, readListAfter m (place.before db.dialect.toGrammar) sql = some (texts, rest)) ∧
      (place.isLast = true →
        ∃ sql, (db.render elapsed (place.expr texts)).outcome = .ok ⟨sql, []⟩ ∧
          readListAfter m (place.before db.dialect.toGrammar) sql = some (texts, [])) := by
  obtain ⟨hname, m, hmark, comma, closing⟩ := marks.exists_mark place
  refine ⟨m, hmark, fun sql binds houtcome => ?_, fun last => ?_⟩
  · obtain ⟨u, hrender, -⟩ := outcome_eq_ok_render.1 houtcome
    obtain ⟨rest, rfl⟩ := place.render_begins written hname hmark hrender
    exact ⟨rest.toList, readListAfter_listText hmark comma closing _ _ rest⟩
  · obtain ⟨warnings, hlast⟩ := place.render_last last written hname hmark
    have hread := readListAfter_listText hmark comma closing
      (place.before db.dialect.toGrammar) texts ""
    rw [String.append_empty] at hread
    exact ⟨_, outcome_eq_ok_render.2 ⟨_, hlast {}, rfl⟩, hread⟩

/-- Cases without characters, and with what parts and closes a list, are read back. -/
theorem read_lists_cases :
    Dialect.mysql.HasBuiltinMarks ∧
      ListPlace.enumDataType.isWritten Dialect.mysql.toGrammar ["", "a', 'b", ")"] = true ∧
      (Database.render { dialect := .mysql } 0
          (ListPlace.enumDataType.expr ["", "a', 'b", ")"])).outcome =
        .ok ⟨"ENUM('', 'a'', ''b', ')')", []⟩ ∧
      readListAfter '\'' "ENUM" "ENUM('', 'a'', ''b', ')')" = some (["", "a', 'b", ")"], []) := by
  have marks := Dialect.isBuiltin_mysql.hasBuiltinMarks
  have written :
      ListPlace.enumDataType.isWritten Dialect.mysql.toGrammar ["", "a', 'b", ")"] = true := by
    decide
  obtain ⟨m, hmark, -, hlast⟩ :=
    @read_lists { dialect := .mysql } 0 marks .enumDataType ["", "a', 'b", ")"] written
  have hquote : (ListPlace.enumDataType.mark Dialect.mysql.toGrammar).toList = ['\''] := rfl
  obtain rfl : m = '\'' := by
    rw [hquote] at hmark
    exact (List.cons.inj hmark).1.symm
  obtain ⟨sql, houtcome, hread⟩ := hlast rfl
  have hrender : (Database.render { dialect := .mysql } 0
      (ListPlace.enumDataType.expr ["", "a', 'b", ")"])).outcome =
        .ok ⟨"ENUM('', 'a'', ''b', ')')", []⟩ := by
    refine outcome_of_render ?_
    rw [Expr.render, ListPlace.draft_enumDataType rfl, ListPlace.tokens,
      ListPlace.render_call hquote]
    exact congrArg pure (by decide +kernel)
  obtain rfl : sql = "ENUM('', 'a'', ''b', ')')" := by
    rw [hrender] at houtcome
    cases houtcome
    rfl
  exact ⟨marks, written, hrender, hread⟩

end Database

end SqlRender
