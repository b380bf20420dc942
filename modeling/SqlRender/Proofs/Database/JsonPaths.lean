import Mathlib
import SqlRender.Dialect.Builtin
import SqlRender.Expr.Build
import SqlRender.Proofs.Query.Sentence
import SqlRender.Proofs.Text.Quoting

/-!
# Paths to JSON values

PostgreSQL has a token for each key of a path, so that column and keys can be read back from the
text of an access (`Database.readAccess_of_subpath`). SQLite and MySQL have one token for the whole
path, in which the keys are joined with points and nothing tells the points between keys from those
in keys: two paths are confused exactly if they are the same once the keys are split at their points
(`Database.subpaths_alike`).
-/

namespace SqlRender

open Rendering

/-! ## The text of an access -/

namespace JsonAccess

/-- The arrows and keys of a path, the last of which has the longer arrow. -/
def arrowTexts (g : Grammar) (keys : List String) (last : String) : List String :=
  (keys.flatMap fun key => ["->", g.quoteString key]) ++ ["->>", g.quoteString last]

/-- The steps of a key, which are what its points part. -/
def steps (key : String) : List (List Char) :=
  key.toList.splitOn '.'

/-- The token of a path that is a single text. -/
def pathText (g : Grammar) (keys : List String) : String :=
  g.quoteString ("$." ++ ".".intercalate keys)

/-- Keys joined with points have the steps of all of them. -/
theorem splitOn_joined {keys : List String} (nonempty : keys ≠ []) :
    (".".intercalate keys).toList.splitOn '.' = keys.flatMap steps := by
  induction keys with
  | nil => exact absurd rfl nonempty
  | cons key keys ih =>
      cases keys with
      | nil =>
          show _ = steps key ++ []
          rw [String.intercalate_singleton, List.append_nil, steps]
      | cons next keys =>
          have hlist : (".".intercalate (key :: next :: keys)).toList =
              key.toList ++ '.' :: (".".intercalate (next :: keys)).toList := by
            rw [String.intercalate_cons_cons]
            simp
          rw [hlist, List.splitOn_append_cons_self, ih (List.cons_ne_nil _ _), List.flatMap_cons]
          rfl

/-- Joined with points, keys are told apart by their steps alone. -/
theorem intercalate_eq_iff {keys keys' : List String} (nonempty : keys ≠ [])
    (nonempty' : keys' ≠ []) :
    ".".intercalate keys = ".".intercalate keys' ↔ keys.flatMap steps = keys'.flatMap steps := by
  constructor
  · intro h
    rw [← splitOn_joined nonempty, ← splitOn_joined nonempty', h]
  · intro h
    rw [← splitOn_joined nonempty, ← splitOn_joined nonempty'] at h
    have hjoined := congrArg (['.'].intercalate ·) h
    simp only [List.intercalate_splitOn] at hjoined
    exact String.toList_inj.1 hjoined

/-- A key without points is one step. -/
theorem flatMap_steps {keys : List String} (h : ∀ key ∈ keys, '.' ∉ key.toList) :
    keys.flatMap steps = keys.map String.toList := by
  induction keys with
  | nil => rfl
  | cons key keys ih =>
      rw [List.forall_mem_cons] at h
      rw [List.flatMap_cons, ih h.2, steps, List.splitOn_eq_singleton h.1]
      rfl

theorem texts_map (keys : List String) (position : Nat) :
    Wording.texts position (keys.map .text) = .ok keys := by
  induction keys generalizing position with
  | nil => rfl
  | cons key keys ih =>
      show (Wording.texts (position + 1) (keys.map .text)).map (key :: ·) = _
      rw [ih]
      rfl

theorem arrows_eq (g : Grammar) (keys : List String) (last : String) :
    arrows g ((keys ++ [last]).map .text) = (arrowTexts g keys last).map .text := by
  induction keys with
  | nil => rfl
  | cons key keys ih =>
      -- a key has the shorter arrow because something comes after it
      have hrest : (keys ++ [last]).map Wording.text ≠ [] := by simp
      rw [List.cons_append, List.map_cons, arrows, ih]
      · rfl
      · exact hrest

theorem join_arrowTexts (g : Grammar) (keys : List String) (last : String) :
    String.join (arrowTexts g keys last) =
      String.join (keys.map fun key => "->" ++ g.quoteString key) ++ "->>" ++
        g.quoteString last := by
  induction keys with
  | nil =>
      show String.join ["->>", g.quoteString last] = _
      simp
  | cons key keys ih =>
      have hcons : arrowTexts g (key :: keys) last =
          "->" :: g.quoteString key :: arrowTexts g keys last := rfl
      rw [hcons, String.join_cons, String.join_cons, ih, List.map_cons, String.join_cons]
      simp only [String.append_assoc]

end JsonAccess

namespace Expr

variable {d : Dialect}

/-- The access to a path of keys inside a column, each given as a text. -/
def keyed (column : String) (keys : List String) : Expr :=
  subpath (.value (.text column)) (keys.map .text)

/-- A path of keys is drafted in the way in which the dialect reaches values. -/
theorem draft_keyed {g : Grammar} {access : JsonAccess} (h : g.jsonAccess = some access)
    (column : String) {keys : List String} (nonempty : keys ≠ []) :
    (keyed column keys).draft g =
      access.draft g (.text (g.quoteIdentifier column)) (keys.map .text) := by
  have hkeys : (keys.map Wording.text).isEmpty = false := by
    rw [List.isEmpty_map]
    simpa using nonempty
  rw [draft, keyed, subpath, piece_node]
  show Draft.subpath g _ (keys.map .text) = _
  rw [Draft.subpath, hkeys, if_neg Bool.false_ne_true, h]
  rfl

theorem render_extractCall (h : d.jsonAccess = some .extractCall) {column : String}
    {keys : List String} (nonempty : keys ≠ [])
    (column_ne : d.quoteIdentifier column ≠ "")
    (path_ne : JsonAccess.pathText d.toGrammar keys ≠ "") :
    Rendering.render ((keyed column keys).render d) =
      pure ("json_extract(" ++ d.quoteIdentifier column ++ ", " ++
        JsonAccess.pathText d.toGrammar keys ++ ")") := by
  have hitems : Text.joinFull ", "
      [d.quoteIdentifier column, JsonAccess.pathText d.toGrammar keys] =
        d.quoteIdentifier column ++ ", " ++ JsonAccess.pathText d.toGrammar keys := by
    rw [Text.joinFull, Text.full_eq_self]
    · rfl
    · intro text htext
      rcases List.mem_pair.1 htext with rfl | rfl
      · exact column_ne
      · exact path_ne
  have hdraft : (keyed column keys).draft d.toGrammar =
      .seq [.text "json_extract", .group
        ([d.quoteIdentifier column, JsonAccess.pathText d.toGrammar keys].map .text)] := by
    rw [draft_keyed h column nonempty, JsonAccess.draft, JsonAccess.texts_map]
    rfl
  rw [Expr.render, hdraft, Draft.render_call, Draft.renderAll_texts, map_pure, hitems]
  refine congrArg pure ?_
  simp only [String.append_assoc]
  rfl

/-- Texts in parentheses with nothing between them. -/
theorem render_parenthesized {placeholder : Int → String} (texts : List String) :
    Rendering.render (Draft.run placeholder (.group [.join "" (texts.map .text)])) =
      pure ("(" ++ String.join texts ++ ")") := by
  rw [Draft.render_group, Draft.renderAll_cons, Draft.render_join, Draft.renderAll_texts, map_pure,
    pure_bind, Text.joinFull_nothing]
  show (pure ("(" ++ Text.joinFull ", " [String.join texts] ++ ")") : Rendering String) = _
  rw [Text.joinFull_single]

theorem render_pathArrow (h : d.jsonAccess = some .pathArrow) (column : String)
    {keys : List String} (nonempty : keys ≠ []) :
    Rendering.render ((keyed column keys).render d) =
      pure ("(" ++ d.quoteIdentifier column ++ "->>" ++
        JsonAccess.pathText d.toGrammar keys ++ ")") := by
  have hdraft : (keyed column keys).draft d.toGrammar = .group [.join "" ([d.quoteIdentifier column,
      "->>", JsonAccess.pathText d.toGrammar keys].map .text)] := by
    rw [draft_keyed h column nonempty, JsonAccess.draft, JsonAccess.texts_map]
    rfl
  rw [Expr.render, hdraft, render_parenthesized]
  simp [String.append_assoc]

theorem render_keyArrows (h : d.jsonAccess = some .keyArrows) (column : String)
    (keys : List String) (last : String) :
    Rendering.render ((keyed column (keys ++ [last])).render d) =
      pure ("(" ++ d.quoteIdentifier column ++
        String.join (keys.map fun key => "->" ++ d.quoteString key) ++ "->>" ++
        d.quoteString last ++ ")") := by
  have hdraft : (keyed column (keys ++ [last])).draft d.toGrammar =
      .group [.join "" ((d.quoteIdentifier column ::
        JsonAccess.arrowTexts d.toGrammar keys last).map .text)] := by
    rw [draft_keyed h column (by simp), JsonAccess.draft, JsonAccess.arrows_eq]
    rfl
  rw [Expr.render, hdraft, render_parenthesized, String.join_cons, JsonAccess.join_arrowTexts]
  simp only [String.append_assoc]

end Expr

/-! ## Reading an access back -/

namespace JsonAccess

open Text

/-- The keys that are read from arrows and tokens, up to the parenthesis that closes them. -/
def readKeys (cs : List Char) : Option (List String) :=
  match cs with
  | '-' :: '>' :: '\'' :: cs =>
    match _read : readToken '\'' false cs with
    | some (key, rest) => (readKeys rest).map (String.ofList key :: ·)
    | none => none
  | '-' :: '>' :: '>' :: '\'' :: cs =>
    match readToken '\'' false cs with
    | some (key, [')']) => some [String.ofList key]
    | _ => none
  | _ => none
termination_by cs.length
decreasing_by
  have hle := length_of_readToken _read
  simp only [List.length_cons]
  omega

/-- The column and the keys that are read from an access. -/
def readAccess (text : String) : Option (String × List String) :=
  match text.toList with
  | '(' :: '"' :: cs =>
    match readToken '"' false cs with
    | some (column, rest) => (readKeys rest).map fun keys => (String.ofList column, keys)
    | none => none
  | _ => none

/-- The text of the keys of a path, with what closes it. -/
def keysText (keys : List String) (last : String) : String :=
  String.join (keys.map fun key => "->" ++ quote "'" key) ++ "->>" ++ quote "'" last ++ ")"

theorem keysText_cons (key : String) (keys : List String) (last : String) :
    keysText (key :: keys) last = "->" ++ quote "'" key ++ keysText keys last := by
  rw [keysText, keysText, List.map_cons, String.join_cons]
  simp only [String.append_assoc]

/-- Whatever comes next in a path starts with an arrow, so that the token before it is over. -/
theorem head_keysText (keys : List String) (last : String) :
    (keysText keys last).toList.head? = some '-' := by
  cases keys with
  | nil => simp [keysText]
  | cons key keys =>
      rw [keysText_cons]
      simp

theorem readKeys_keysText (keys : List String) (last : String) :
    readKeys (keysText keys last).toList = some (keys ++ [last]) := by
  have hmark : "'".toList = ['\''] := rfl
  induction keys with
  | nil =>
      have hlist : (keysText [] last).toList =
          '-' :: '>' :: '>' :: '\'' :: (doubled '\'' last.toList ++ '\'' :: [')']) := by
        simp [keysText, toList_quote hmark]
      have hread : readToken '\'' false (doubled '\'' last.toList ++ '\'' :: [')']) =
          some (last.toList, [')']) := readToken_doubled (by simp) _
      rw [hlist, readKeys, hread]
      simp
  | cons key keys ih =>
      have hlist : (keysText (key :: keys) last).toList = '-' :: '>' :: '\'' ::
          (doubled '\'' key.toList ++ '\'' :: (keysText keys last).toList) := by
        rw [keysText_cons]
        simp [toList_quote hmark]
      have hfirst : (keysText keys last).toList.head? ≠ some '\'' := by
        rw [head_keysText]
        simp
      have hread := readToken_doubled hfirst key.toList
      rw [hlist, readKeys, hread]
      simp [ih]

end JsonAccess

namespace Database

variable {db : Database} (elapsed : Float)

/-- The query for an access in PostgreSQL. -/
theorem outcome_keyArrows (base : db.dialect.toGrammar = Dialect.postgresql.toGrammar)
    (column : String) (keys : List String) (last : String) :
    (db.render elapsed (Expr.keyed column (keys ++ [last]))).outcome =
      .ok ⟨"(" ++ Text.quote "\"" column ++ JsonAccess.keysText keys last, []⟩ := by
  have access : db.dialect.jsonAccess = some .keyArrows :=
    congrArg Grammar.jsonAccess base
  have identifierQuote : db.dialect.identifierQuote = "\"" :=
    congrArg Grammar.identifierQuote base
  have stringQuote : db.dialect.stringQuote = "'" :=
    congrArg Grammar.stringQuote base
  rw [outcome_of_render (Expr.render_keyArrows access column keys last), JsonAccess.keysText,
    Grammar.quoteIdentifier, identifierQuote]
  simp only [Grammar.quoteString, stringQuote, String.append_assoc]

/-- There is no access without a key. -/
theorem outcome_keyed_nil (column : String) :
    (db.render elapsed (Expr.keyed column [])).outcome = .error (.broken .subpathNotEmpty) := by
  have hdraft : (Expr.keyed column []).draft db.dialect.toGrammar =
      .fail (.broken .subpathNotEmpty) := rfl
  rw [db.outcome_eq, Expr.render, hdraft]
  rfl

theorem readAccess_keyArrows (column : String) (keys : List String) (last : String) :
    JsonAccess.readAccess ("(" ++ Text.quote "\"" column ++ JsonAccess.keysText keys last) =
      some (column, keys ++ [last]) := by
  have hmark : "\"".toList = ['"'] := rfl
  have hlist : ("(" ++ Text.quote "\"" column ++ JsonAccess.keysText keys last).toList =
      '(' :: '"' :: (Text.doubled '"' column.toList ++
        '"' :: (JsonAccess.keysText keys last).toList) := by
    simp [Text.toList_quote hmark]
  have hfirst : (JsonAccess.keysText keys last).toList.head? ≠ some '"' := by
    rw [JsonAccess.head_keysText]
    simp
  have hread := Text.readToken_doubled hfirst column.toList
  rw [JsonAccess.readAccess, hlist]
  simp [hread, JsonAccess.readKeys_keysText]

theorem keyArrows_inj {column column' : String} {keys keys' : List String} {last last' : String}
    (h : "(" ++ Text.quote "\"" column ++ JsonAccess.keysText keys last =
      "(" ++ Text.quote "\"" column' ++ JsonAccess.keysText keys' last') :
    column = column' ∧ keys ++ [last] = keys' ++ [last'] := by
  have hread := readAccess_keyArrows column keys last
  rw [h, readAccess_keyArrows] at hread
  injection hread with hpair
  obtain ⟨hcolumn, hkeys⟩ := Prod.mk.inj hpair
  exact ⟨hcolumn.symm, hkeys.symm⟩

/-- **Reading an access back.** In PostgreSQL an access to a path of keys has the column first, the
short arrow before every key but the last and the long one before the last, in parentheses. Column
and keys are read back from it, whatever characters they have, so that no other column and path give
the same text. -/
theorem readAccess_of_subpath (base : db.dialect.toGrammar = Dialect.postgresql.toGrammar)
    (column : String) (keys : List String) (nonempty : keys ≠ []) :
    ∃ sql, (db.render elapsed (Expr.keyed column keys)).outcome = .ok ⟨sql, []⟩ ∧
      sql = "(" ++ db.dialect.quoteIdentifier column ++
        String.join (keys.dropLast.map fun key => "->" ++ db.dialect.quoteString key) ++ "->>" ++
          db.dialect.quoteString (keys.getLast nonempty) ++ ")" ∧
      JsonAccess.readAccess sql = some (column, keys) ∧
      ∀ (column' : String) (keys' : List String),
        (db.render elapsed (Expr.keyed column' keys')).outcome = .ok ⟨sql, []⟩ ↔
          column' = column ∧ keys' = keys := by
  have hsplit : keys.dropLast ++ [keys.getLast nonempty] = keys :=
    List.dropLast_append_getLast nonempty
  have houtcome := outcome_keyArrows elapsed base column keys.dropLast (keys.getLast nonempty)
  have hread := readAccess_keyArrows column keys.dropLast (keys.getLast nonempty)
  rw [hsplit] at houtcome hread
  refine ⟨_, houtcome, ?_, hread, ?_⟩
  · have identifierQuote : db.dialect.identifierQuote = "\"" :=
      congrArg Grammar.identifierQuote base
    have stringQuote : db.dialect.stringQuote = "'" :=
      congrArg Grammar.stringQuote base
    rw [JsonAccess.keysText, Grammar.quoteIdentifier, identifierQuote]
    simp only [Grammar.quoteString, stringQuote, String.append_assoc]
  · intro column' keys'
    constructor
    · intro houtcome'
      rcases List.eq_nil_or_concat keys' with rfl | ⟨front, last, rfl⟩
      · rw [outcome_keyed_nil] at houtcome'
        cases houtcome'
      · rw [List.concat_eq_append, outcome_keyArrows elapsed base] at houtcome'
        injection houtcome' with hquery
        injection hquery with hsql
        rw [← hsplit, List.concat_eq_append]
        exact keyArrows_inj hsql
    · rintro ⟨rfl, rfl⟩
      exact houtcome

/-- Keys without text and with arrows, marks and parentheses are read back. -/
theorem readAccess_of_subpath_marks :
    Dialect.postgresql.toGrammar = Dialect.postgresql.toGrammar ∧
      (["", "->>'x')", "k"] : List String) ≠ [] ∧
      (Database.render { dialect := .postgresql } 0
          (Expr.keyed "a\"b" ["", "->>'x')", "k"])).outcome =
        .ok ⟨"(\"a\"\"b\"->''->'->>''x'')'->>'k')", []⟩ ∧
      JsonAccess.readAccess "(\"a\"\"b\"->''->'->>''x'')'->>'k')" =
        some ("a\"b", ["", "->>'x')", "k"]) := by
  have nonempty : (["", "->>'x')", "k"] : List String) ≠ [] := List.cons_ne_nil _ _
  obtain ⟨sql, houtcome, hsql, hread, -⟩ :=
    @readAccess_of_subpath { dialect := .postgresql } 0 rfl "a\"b" ["", "->>'x')", "k"] nonempty
  have htext : sql = "(\"a\"\"b\"->''->'->>''x'')'->>'k')" := by
    rw [hsql]
    cbv
  rw [htext] at houtcome hread
  exact ⟨rfl, nonempty, houtcome, hread⟩

/-! ## Paths that are a single text -/

/-- Where a path is a single text, the query for an access is the token of the path between texts
that do not depend on it. -/
theorem outcome_joined (base : db.dialect.toGrammar = Dialect.sqlite.toGrammar ∨
      db.dialect.toGrammar = Dialect.mysql.toGrammar) (column : String) :
    ∃ opening : String, ∀ keys : List String, keys ≠ [] →
      (db.render elapsed (Expr.keyed column keys)).outcome =
        .ok ⟨opening ++ Text.quote "'" ("$." ++ ".".intercalate keys) ++ ")", []⟩ := by
  have hmark : "'".toList = ['\''] := rfl
  rcases base with base | base
  · have access : db.dialect.jsonAccess = some .extractCall :=
      congrArg Grammar.jsonAccess base
    have stringQuote : db.dialect.stringQuote = "'" :=
      congrArg Grammar.stringQuote base
    have column_ne : db.dialect.quoteIdentifier column ≠ "" := by
      have identifierQuote : db.dialect.identifierQuote = "\"" :=
        congrArg Grammar.identifierQuote base
      rw [Grammar.quoteIdentifier, identifierQuote]
      exact Text.quote_ne rfl column
    refine ⟨"json_extract(" ++ db.dialect.quoteIdentifier column ++ ", ", fun keys nonempty => ?_⟩
    have path : JsonAccess.pathText db.dialect.toGrammar keys =
        Text.quote "'" ("$." ++ ".".intercalate keys) := by
      rw [JsonAccess.pathText, Grammar.quoteString, stringQuote]
    have path_ne : JsonAccess.pathText db.dialect.toGrammar keys ≠ "" := by
      rw [path]
      exact Text.quote_ne hmark _
    rw [outcome_of_render (Expr.render_extractCall access nonempty column_ne path_ne), path]
  · have access : db.dialect.jsonAccess = some .pathArrow :=
      congrArg Grammar.jsonAccess base
    have stringQuote : db.dialect.stringQuote = "'" :=
      congrArg Grammar.stringQuote base
    refine ⟨"(" ++ db.dialect.quoteIdentifier column ++ "->>", fun keys nonempty => ?_⟩
    rw [outcome_of_render (Expr.render_pathArrow access column nonempty), JsonAccess.pathText,
      Grammar.quoteString, stringQuote]

/-- **When paths are confused.** In SQLite and in MySQL two paths into the same column give the same
query exactly if they have the same steps, where each point in a key parts two of them as the end of
the key does. So paths whose keys have no points are told apart. In PostgreSQL all paths are. -/
theorem subpaths_alike (base : db.dialect.toGrammar = Dialect.sqlite.toGrammar ∨
      db.dialect.toGrammar = Dialect.mysql.toGrammar) (column : String) {keys keys' : List String}
    (nonempty : keys ≠ []) (nonempty' : keys' ≠ []) :
    ∃ sql sql', (db.render elapsed (Expr.keyed column keys)).outcome = .ok ⟨sql, []⟩ ∧
      (db.render elapsed (Expr.keyed column keys')).outcome = .ok ⟨sql', []⟩ ∧
      (sql = sql' ↔ keys.flatMap JsonAccess.steps = keys'.flatMap JsonAccess.steps) ∧
      ((∀ key ∈ keys ++ keys', '.' ∉ key.toList) → (sql = sql' ↔ keys = keys')) ∧
      ∀ other : Database, other.dialect.toGrammar = Dialect.postgresql.toGrammar →
        ((other.render elapsed (Expr.keyed column keys)).outcome =
            (other.render elapsed (Expr.keyed column keys')).outcome ↔ keys = keys') := by
  obtain ⟨opening, houtcome⟩ := outcome_joined elapsed base column
  have htexts : opening ++ Text.quote "'" ("$." ++ ".".intercalate keys) ++ ")" =
      opening ++ Text.quote "'" ("$." ++ ".".intercalate keys') ++ ")" ↔
        keys.flatMap JsonAccess.steps = keys'.flatMap JsonAccess.steps := by
    rw [String.append_left_inj, String.append_right_inj, Text.quote_inj rfl,
      String.append_right_inj, JsonAccess.intercalate_eq_iff nonempty nonempty']
  refine ⟨_, _, houtcome keys nonempty, houtcome keys' nonempty', htexts, ?_, ?_⟩
  · intro pointless
    rw [List.forall_mem_append] at pointless
    rw [htexts, JsonAccess.flatMap_steps pointless.1, JsonAccess.flatMap_steps pointless.2]
    exact List.map_injective_iff.2 (fun _ _ => String.toList_inj.1) |>.eq_iff
  · intro other base'
    constructor
    · intro h
      rcases List.eq_nil_or_concat keys with rfl | ⟨front, last, rfl⟩
      · exact absurd rfl nonempty
      rcases List.eq_nil_or_concat keys' with rfl | ⟨front', last', rfl⟩
      · exact absurd rfl nonempty'
      rw [List.concat_eq_append, List.concat_eq_append] at h ⊢
      rw [outcome_keyArrows elapsed base', outcome_keyArrows elapsed base'] at h
      injection h with hquery
      injection hquery with hsql
      exact (keyArrows_inj hsql).2
    · rintro rfl
      rfl

/-- A key with a point and two keys are confused in SQLite. -/
theorem subpaths_alike_dotted :
    (Dialect.sqlite.toGrammar = Dialect.sqlite.toGrammar ∨
        Dialect.sqlite.toGrammar = Dialect.mysql.toGrammar) ∧
      (["a.b"] : List String) ≠ [] ∧ (["a", "b"] : List String) ≠ [] ∧
      ∃ sql,
        (Database.render { dialect := .sqlite } 0 (Expr.keyed "c" ["a.b"])).outcome =
            .ok ⟨sql, []⟩ ∧
          (Database.render { dialect := .sqlite } 0 (Expr.keyed "c" ["a", "b"])).outcome =
            .ok ⟨sql, []⟩ := by
  have nonempty : (["a.b"] : List String) ≠ [] := List.cons_ne_nil _ _
  have nonempty' : (["a", "b"] : List String) ≠ [] := List.cons_ne_nil _ _
  obtain ⟨sql, sql', houtcome, houtcome', hiff, -⟩ :=
    @subpaths_alike { dialect := .sqlite } 0 (.inl rfl) "c" _ _ nonempty nonempty'
  have hsteps : (["a.b"] : List String).flatMap JsonAccess.steps =
      ["a", "b"].flatMap JsonAccess.steps := by
    cbv
  obtain rfl : sql = sql' := hiff.2 hsteps
  exact ⟨.inl rfl, nonempty, nonempty', sql, houtcome, houtcome'⟩

end Database

end SqlRender
