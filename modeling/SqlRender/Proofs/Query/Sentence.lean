import SqlRender.Proofs.Expr.Vanishing
import SqlRender.Proofs.Render.Intercalation

/-!
# The parts of a query

What the parts of a query add to its text: a part in a phrase, the body of a clause, the items of a
list, and the words for a limit and an offset. Each is told by what expressions render to, in the
order in which they are rendered.
-/

namespace SqlRender

open Rendering

namespace Expr

/-- The text that an expression adds to a phrase: none if it is missing, a plain text as it is, and
else what it renders to. -/
def partText (d : Dialect) : Expr → Rendering String
  | .value .null => pure ""
  | .value (.text s) => pure s
  | e => Rendering.render (e.render d)

/-- The text of the body of a clause, which may be missing. -/
def bodyText (d : Dialect) (e : Expr) : Rendering String :=
  if e.isNull then pure "" else Rendering.render (e.render d)

/-- The texts of expressions that are rendered in turn. -/
def itemTexts (d : Dialect) (es : List Expr) : Rendering (List String) :=
  es.mapM fun e => Rendering.render (e.render d)

variable {d : Dialect}

theorem itemTexts_cons (e : Expr) (es : List Expr) :
    itemTexts d (e :: es) = do
      let text ← Rendering.render (e.render d)
      let texts ← itemTexts d es
      return text :: texts :=
  List.mapM_cons

theorem itemTexts_append (es fs : List Expr) :
    itemTexts d (es ++ fs) = do
      let texts ← itemTexts d es
      let more ← itemTexts d fs
      return texts ++ more :=
  List.mapM_append

/-- A part of a phrase is missing, a plain text, or what is rendered. -/
theorem part_cases (d : Dialect) (e : Expr) :
    e = .absent ∨ (∃ s, e = .value (.text s)) ∨
      (e.piece d.toGrammar).part = [e.draft d.toGrammar] ∧
        e.partText d = Rendering.render (e.render d) := by
  cases e with
  | value v =>
      cases v with
      | null => exact .inl rfl
      | text s => exact .inr (.inl ⟨s, rfl⟩)
      | _ => exact .inr (.inr ⟨rfl, rfl⟩)
  | sequence isTuple items => exact .inr (.inr ⟨rfl, rfl⟩)
  | node n => exact .inr (.inr ⟨part_node n, rfl⟩)

theorem fullTexts_part (e : Expr) :
    Draft.fullTexts d.placeholder (e.piece d.toGrammar).part =
      (fun text => Text.full [text]) <$> e.partText d := by
  rcases e.part_cases d with rfl | ⟨s, rfl⟩ | ⟨hpart, htext⟩
  · rfl
  · exact Draft.fullTexts_words [s]
  · rw [hpart, htext, Draft.fullTexts_single]
    rfl

/-- A part is all there is of a phrase of nothing else. -/
theorem render_phrase_part (e : Expr) :
    Rendering.render ((Draft.phrase (e.piece d.toGrammar).part).run d.placeholder) =
      e.partText d := by
  rw [Draft.render_phrase, fullTexts_part, Functor.map_map]
  exact (congrArg (· <$> _) (funext fun text => Text.joinFull_single " " text)).trans (id_map _)

theorem fullTexts_clause (keyword : String) (e : Expr) :
    Draft.fullTexts d.placeholder ((e.piece d.toGrammar).clause keyword) =
      (fun text => Text.full [Text.clause keyword text]) <$> e.bodyText d := by
  rw [Piece.clause, isAbsent_piece, bodyText]
  cases e.isNull with
  | true => rfl
  | false =>
      rw [if_neg Bool.false_ne_true, if_neg Bool.false_ne_true, Draft.fullTexts_single,
        Draft.render_clause, Functor.map_map]
      rfl

theorem renderAll_drafts (es : List Expr) :
    Draft.renderAll d.placeholder (Piece.drafts (es.map (piece d.toGrammar))) =
      itemTexts d es := by
  rw [Draft.renderAll, Piece.drafts, List.map_map, itemTexts, List.mapM_map]
  rfl

/-- The items of a list add one text to a phrase. -/
theorem fullTexts_items (separator : String) (es : List Expr) :
    Draft.fullTexts d.placeholder
        [.join (.text separator) (Piece.drafts (es.map (piece d.toGrammar)))] =
      (fun texts => Text.full [Text.joinFull separator texts]) <$> itemTexts d es := by
  rw [Draft.fullTexts_single, Draft.render_join, renderAll_drafts, Functor.map_map]

end Expr

/-- A number as it is written, if it is given. -/
def Outline.given? : Outline → Option String
  | .value .null => none
  | o => some o.display

/-- The words for a limit and an offset. An offset without a limit may need one that stands in. -/
def limitTexts (standIn : Option String) (limit offset : Outline) : List String :=
  match limit.given?, offset.given? with
  | some n, some m => ["LIMIT", n, "OFFSET", m]
  | some n, none => ["LIMIT", n]
  | none, some m => (standIn.map fun n => ["LIMIT", n]).getD [] ++ ["OFFSET", m]
  | none, none => []

theorem limitOffset_eq (g : Grammar) (limit offset : Outline) :
    limitOffset g limit offset =
      (limitTexts g.offsetWithoutLimit limit offset).map Draft.text := by
  unfold limitOffset
  -- the numbers are read inside the definition, by a function of the same body as `given?`
  extract_lets given
  have hgiven : given = Outline.given? := rfl
  clear_value given
  subst hgiven
  unfold limitTexts
  cases limit.given? <;> cases offset.given? <;> cases g.offsetWithoutLimit <;> rfl

end SqlRender
