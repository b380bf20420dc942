import SqlRender.Expr.Build
import SqlRender.Proofs.Query.Sentence

/-!
# The members of a union

A union may be written down with all its members or be built by adding queries one by one, which is
the same (`Union.foldl_apply`). Its text has all of them in the order in which they were added, each
after its operator (`Union.render_additions`). An operator that the dialect lacks is dropped with a
warning, and the member stays.
-/

namespace SqlRender

open Rendering

namespace Union

variable {d : Dialect}

/-! ## Adding queries -/

/-- A query that is added to a union: with or without duplicate rows, or with any operator. -/
inductive Addition where
  | plain (query : Select Expr) (distinct : Bool)
  | joined (query : Select Expr) (operation : SetOperation)

namespace Addition

/-- The query that is added. -/
def query : Addition → Select Expr
  | .plain query _ => query
  | .joined query _ => query

/-- The operator before the query. -/
def operation : Addition → SetOperation
  | .plain _ distinct => if distinct then .union else .unionAll
  | .joined _ operation => operation

/-- The operator as a part of the union. -/
def joiner : Addition → Expr
  | .plain _ distinct => Expr.unionJoiner distinct
  | .joined _ operation => .node (.unionJoiner (.node (.keyword (.setOperation operation))))

/-- The union with the query added. -/
def apply (u : Union Expr) (a : Addition) : Union Expr :=
  Expr.addMember u a.joiner (.node (.select a.query))

/-- The member that the query becomes. -/
def member (a : Addition) : List Expr :=
  [a.joiner, .node (.select a.query)]

theorem joiner_eq (a : Addition) :
    a.joiner = .node (.unionJoiner (.node (.keyword (.setOperation a.operation)))) := by
  cases a <;> rfl

end Addition

/-- Queries that are added one by one come after the members that were there. -/
theorem foldl_apply (additions : List Addition) (u : Union Expr) :
    additions.foldl Addition.apply u =
      { u with members := u.members ++ additions.map Addition.member } := by
  induction additions generalizing u with
  | nil => rw [List.foldl_nil, List.map_nil, List.append_nil]
  | cons a additions ih =>
      rw [List.foldl_cons, ih, List.map_cons]
      simp [Addition.apply, Expr.addMember, Addition.member]

/-! ## Texts -/

/-- The text of an operator. One that the dialect lacks has none, and is warned of. -/
def operatorText (d : Dialect) (o : SetOperation) : Rendering String :=
  if d.unionFeatures.has o.feature then
    pure (o.word ++
      if o.keepsDuplicates then " ALL"
      else if d.unionFeatures.has .explicitDistinct then " DISTINCT"
      else "")
  else do
    warn (.noSetOperation d.name (o.word ++ if o.keepsDuplicates then " ALL" else ""))
    return ""

/-- The text of a query as a member, in parentheses where the dialect has these. -/
def memberText (d : Dialect) (query : Select Expr) : Rendering String := do
  let text ← Rendering.render ((Expr.node (.select query)).render d)
  return if d.unionFeatures.has .parenthesizedMembers then "(" ++ text ++ ")" else text

/-- The text of a union: the texts of its parts with spaces between them, rendered in the order in
which they stand. -/
def sentence (d : Dialect) (initial : Select Expr) (additions : List Addition)
    (orderBy : List Expr) (limit offset : Outline) (tables : Expr) : Rendering String := do
  let opening ← tables.partText d
  let first ← memberText d initial
  let members ← additions.mapM fun a => do
    let operator ← operatorText d a.operation
    let member ← memberText d a.query
    return [operator, member]
  let ordering ← Expr.itemTexts d orderBy
  return Text.joinFull " " (opening :: first :: members.flatten ++
    Text.clause "ORDER BY" (Text.joinFull ", " ordering) ::
      limitTexts d.offsetWithoutLimit limit offset)

/-- The words of an operator that a dialect has. -/
theorem render_operator {o : SetOperation} (known : d.unionFeatures.has o.feature = true) :
    Rendering.render ((o.draft d.toGrammar).run d.placeholder) =
      pure (o.word ++
        if o.keepsDuplicates then " ALL"
        else if d.unionFeatures.has .explicitDistinct then " DISTINCT"
        else "") := by
  have single : Text.joinFull " " [o.word] = o.word := Text.joinFull_single ..
  have double (word : String) (h : word ≠ "") :
      Text.joinFull " " [o.word, word] = o.word ++ " " ++ word := by
    have hword : o.word ≠ "" := by cases o <;> decide
    simp [Text.joinFull, Text.full, hword, h]
  rw [SetOperation.draft, known, Bool.not_true, if_neg Bool.false_ne_true]
  cases o.keepsDuplicates with
  | true =>
      rw [if_pos rfl, if_pos rfl]
      exact (Draft.render_words [o.word, "ALL"]).trans
        (congrArg _ ((double "ALL" (by decide)).trans (String.append_assoc ..)))
  | false =>
      rw [if_neg Bool.false_ne_true, if_neg Bool.false_ne_true]
      cases d.unionFeatures.has .explicitDistinct with
      | true =>
          exact (Draft.render_words [o.word, "DISTINCT"]).trans
            (congrArg _ ((double "DISTINCT" (by decide)).trans (String.append_assoc ..)))
      | false =>
          exact (Draft.render_words [o.word]).trans
            (congrArg _ (single.trans (String.append_empty ..).symm))

/-- An operator adds its words to a phrase. -/
theorem fullTexts_joiner (a : Addition) :
    Draft.fullTexts d.placeholder (a.joiner.piece d.toGrammar).part =
      (fun text => Text.full [text]) <$> operatorText d a.operation := by
  have hpart : (a.joiner.piece d.toGrammar).part = [a.operation.draft d.toGrammar] := by
    rw [a.joiner_eq, Expr.piece_node, Node.map, Expr.piece_node]
    rfl
  rw [hpart, Draft.fullTexts_single]
  refine congrArg _ ?_
  rw [operatorText]
  -- an operator that the dialect lacks is a part of the phrase all the same, one without text
  cases known : d.unionFeatures.has a.operation.feature with
  | true => exact render_operator known
  | false =>
      rw [SetOperation.draft, known]
      rfl

/-- A member adds its query to a phrase. -/
theorem fullTexts_member (query : Select Expr) :
    Draft.fullTexts d.placeholder
        (member (d.unionFeatures.has .parenthesizedMembers)
          ((Expr.node (.select query)).piece d.toGrammar)) =
      (fun text => Text.full [text]) <$> memberText d query := by
  rw [member, memberText]
  cases d.unionFeatures.has .parenthesizedMembers with
  | false =>
      rw [if_neg Bool.false_ne_true, Expr.fullTexts_part]
      simp [Expr.partText]
  | true =>
      have hgrouped : ((Expr.node (.select query)).piece d.toGrammar).grouped =
          .group [(Expr.node (.select query)).draft d.toGrammar] := by
        rw [Expr.draft, Expr.piece_node]
        rfl
      rw [if_pos rfl, Draft.fullTexts_single, hgrouped, Draft.render_group, Draft.renderAll_cons]
      simp [Draft.renderAll, Text.joinFull_single]
      rfl

/-- A union with members renders to its sentence. -/
theorem render_sentence (initial : Select Expr) {additions : List Addition} (some : additions ≠ [])
    (orderBy : List Expr) (limit offset : Outline) (tables : Expr) :
    Rendering.render
        ((Expr.union ⟨.node (.select initial), additions.map Addition.member, orderBy, limit, offset,
          tables⟩).render d) =
      sentence d initial additions orderBy limit offset tables := by
  have hempty : ((additions.map Addition.member).map (·.map (Expr.piece d.toGrammar))).isEmpty =
      false := by
    simpa using some
  have hpairs : Piece.pairs ((additions.map Addition.member).map (·.map (Expr.piece d.toGrammar))) =
      .ok (additions.map fun a =>
        (a.joiner.piece d.toGrammar, (Expr.node (.select a.query)).piece d.toGrammar)) := by
    rw [List.map_map]
    exact Piece.pairs_map _ _ additions
  have heach (a : Addition) :
      Draft.fullTexts d.placeholder
          ((a.joiner.piece d.toGrammar).part ++
            member (d.unionFeatures.has .parenthesizedMembers)
              ((Expr.node (.select a.query)).piece d.toGrammar)) =
        Text.full <$> (do
          let operator ← operatorText d a.operation
          let member ← memberText d a.query
          return [operator, member]) := by
    rw [Draft.fullTexts_append, fullTexts_joiner, fullTexts_member]
    simp [← Text.full_append]
  rw [Expr.render, Expr.union, Expr.draft_node]
  show Rendering.render ((Union.draft d.toGrammar (Union.map (Expr.piece d.toGrammar) _)).run _) = _
  rw [Union.draft, Union.map, hempty, hpairs]
  simp only [Bool.false_eq_true, if_false, List.flatMap_map]
  -- what each run of parts adds to the phrase, in the order in which they are rendered
  rw [Draft.render_phrase, Draft.fullTexts_append, Draft.fullTexts_append, Draft.fullTexts_append,
    Draft.fullTexts_append, Expr.fullTexts_part, fullTexts_member, Draft.fullTexts_flatMap heach,
    Draft.fullTexts_listClause, Expr.renderAll_drafts, limitOffset_eq, Draft.fullTexts_words]
  simp [sentence, Text.joinFull, ← Text.full_append]

/-- A union without members and common tables renders to its query. -/
theorem render_alone (initial : Select Expr) (orderBy : List Expr) (limit offset : Outline) :
    Rendering.render
        ((Expr.union ⟨.node (.select initial), [], orderBy, limit, offset, .absent⟩).render d) =
      Rendering.render ((Expr.node (.select initial)).render d) := by
  rw [Expr.render, Expr.union, Expr.draft_node]
  show Rendering.render ((Draft.phrase ([] ++
    ((Expr.node (.select initial)).piece d.toGrammar).part)).run d.placeholder) = _
  rw [List.nil_append, Draft.render_phrase, Expr.fullTexts_part, Functor.map_map]
  have single : (fun text => " ".intercalate (Text.full [text])) = id :=
    funext (Text.joinFull_single " ")
  rw [single, id_map]
  rfl

/-- **The members of a union.** A union to which queries are added is the union with all of them.
Its text is made of those of its common tables, its queries, each after its operator, its ordering
and its limits, rendered in this order, whatever was rendered before. If nothing is added and there
are no common tables it is its first query, and its ordering and its limits do not matter. -/
theorem render_additions (d : Dialect) (initial : Select Expr) (additions : List Addition)
    (orderBy : List Expr) (limit offset : Outline) (tables : Expr) :
    let start : Union Expr := ⟨.node (.select initial), [], orderBy, limit, offset, tables⟩
    let built := additions.foldl Addition.apply start
    built = { start with members := additions.map Addition.member } ∧
      (additions ≠ [] →
        Rendering.render ((Expr.union built).render d) =
          sentence d initial additions orderBy limit offset tables) ∧
      (additions = [] → tables = .absent →
        Rendering.render ((Expr.union built).render d) =
            Rendering.render ((Expr.node (.select initial)).render d) ∧
          ∀ (db : Database) (elapsed : Float),
            db.render elapsed (Expr.union built) =
              db.render elapsed (.node (.select initial))) := by
  intro start built
  have hbuilt : built = { start with members := additions.map Addition.member } :=
    foldl_apply additions start
  refine ⟨hbuilt, ?_, ?_⟩
  · intro some
    rw [hbuilt]
    exact render_sentence initial some orderBy limit offset tables
  · rintro rfl rfl
    have halone (d : Dialect) := render_alone (d := d) initial orderBy limit offset
    refine ⟨halone d, fun db elapsed => db.render_congr elapsed ?_⟩
    exact congrFun (halone db.dialect) {}

/-- A query for a number. -/
def number (n : Int) : Select Expr where
  columns := [.node (.bind (.value (.int n)))]
  predicate := .absent
  having := .absent
  locking := .absent

theorem render_additions_numbers :
    ([.plain (number 2) true, .joined (number 3) .intersectAll] : List Addition) ≠ [] ∧
      Rendering.render
          ((Expr.union ([.plain (number 2) true, .joined (number 3) .intersectAll].foldl
            Addition.apply
              ⟨.node (.select (number 1)), [], [], .value (.int 5), .value .null, .absent⟩)).render
            .sqlite) {} =
        .ok "SELECT ? UNION SELECT ? SELECT ? LIMIT 5"
          { binds := [.int 1, .int 2, .int 3]
            warnings := [.noSetOperation "sqlite" "INTERSECT ALL"] } ∧
      Rendering.render
          ((Expr.union (([] : List Addition).foldl Addition.apply
            ⟨.node (.select (number 1)), [], [], .value (.int 5), .value .null, .absent⟩)).render
            .sqlite) =
        Rendering.render ((Expr.node (.select (number 1))).render .sqlite) := by
  have some : ([.plain (number 2) true, .joined (number 3) .intersectAll] : List Addition) ≠ [] :=
    List.cons_ne_nil _ _
  refine ⟨some, ?_, ?_⟩
  · obtain ⟨-, hsentence, -⟩ := render_additions .sqlite (number 1)
      [.plain (number 2) true, .joined (number 3) .intersectAll] [] (.value (.int 5)) (.value .null)
      .absent
    rw [hsentence some]
    simp only [sentence, memberText, Expr.itemTexts, Expr.partText, Expr.absent, number,
      Expr.render, Expr.draft, Expr.piece_node, Expr.piece_value, Node.map, Select.map,
      Addition.query, Addition.operation, List.mapM_cons, List.mapM_nil, List.map_cons,
      List.map_nil]
    cbv
  · obtain ⟨-, -, halone⟩ := render_additions .sqlite (number 1) [] [] (.value (.int 5))
      (.value .null) .absent
    exact (halone rfl rfl).1

end Union

end SqlRender
