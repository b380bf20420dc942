import Mathlib
import SqlRender.Dialect.Builtin
import SqlRender.Proofs.Query.Sentence
import SqlRender.Proofs.Render.Growth
import SqlRender.Proofs.Render.WriteBack

/-!
# Lists of expressions

A list renders to the texts of its items that are not empty, with the separator between them, and a
statement to those of its parts with spaces between them (`Expr.list_laws`). Since a list without
such an item has no text itself, it does not matter which runs of items are lists of their own with
the same separator (`Expr.Regroups.render_eq`).
-/

namespace SqlRender

open Rendering

namespace Expr

variable {d : Dialect} {separator : String}

/-- Expressions with a text between them. -/
def listOf (separator : String) (es : List Expr) : Expr :=
  .node (.list es separator)

theorem draft_listOf (g : Grammar) (separator : String) (es : List Expr) :
    (listOf separator es).draft g =
      .join (.text separator) (Piece.drafts (es.map (piece g))) := by
  rw [listOf, draft_node]
  rfl

/-- A list renders to the texts of its items that are not empty. -/
theorem render_listOf (es : List Expr) :
    Rendering.render ((listOf separator es).render d) =
      Text.joinFull separator <$> itemTexts d es := by
  rw [render, draft_listOf, Draft.render_join, renderAll_drafts]

theorem listOf_isTextual (es : List Expr) : IsTextual ((listOf separator es).render d) := by
  rw [render, draft_listOf, Draft.run]
  exact Draft.runJoined_isTextual separator true _

/-! ## Runs of items -/

/-- The second list of items is the first with runs of them put into lists of their own, which may
be done again inside these lists. -/
inductive Regroups (separator : String) : List Expr → List Expr → Prop where
  | refl (es : List Expr) : Regroups separator es es
  | group (before run after : List Expr) :
    Regroups separator (before ++ run ++ after) (before ++ listOf separator run :: after)
  | inside {run run' : List Expr} (before after : List Expr) : Regroups separator run run' →
    Regroups separator (before ++ listOf separator run :: after)
      (before ++ listOf separator run' :: after)
  | trans {es fs gs : List Expr} : Regroups separator es fs → Regroups separator fs gs →
    Regroups separator es gs

/-- A run of items counts as its list, which is empty if they all are. -/
theorem joinFull_run (separator : String) (xs ys zs : List String) :
    Text.joinFull separator (xs ++ Text.joinFull separator ys :: zs) =
      Text.joinFull separator (xs ++ ys ++ zs) := by
  have hruns := Text.joinFull_flatten separator [xs, ys, zs]
  have hlist := Text.joinFull_flatten separator [xs, [Text.joinFull separator ys], zs]
  simp only [List.flatten_cons, List.flatten_nil, List.append_nil, List.map_cons, List.map_nil,
    Text.joinFull_single] at hruns hlist
  rw [← List.singleton_append, hlist, List.append_assoc, hruns]

/-- One run of items may be put into a list of its own. -/
theorem render_listOf_group (before run after : List Expr) :
    Rendering.render ((listOf separator (before ++ listOf separator run :: after)).render d) =
      Rendering.render ((listOf separator (before ++ run ++ after)).render d) := by
  rw [render_listOf, render_listOf, itemTexts_append, itemTexts_cons, render_listOf,
    List.append_assoc, itemTexts_append, itemTexts_append]
  simp only [map_bind, bind_map_left, bind_assoc, pure_bind, map_pure, joinFull_run,
    List.append_assoc]

/-- Lists render alike, however their items are grouped: with the same text, values and warnings, or
in the same fault. -/
theorem Regroups.render_eq {es es' : List Expr} (h : Regroups separator es es') :
    Rendering.render ((listOf separator es').render d) =
      Rendering.render ((listOf separator es).render d) := by
  induction h with
  | refl es => rfl
  | group before run after => exact render_listOf_group before run after
  | inside before after _ ih =>
      -- a list inside counts by what it renders to
      rw [render_listOf, render_listOf, itemTexts_append, itemTexts_append, itemTexts_cons,
        itemTexts_cons, ih]
  | trans _ _ ih ih' => exact ih'.trans ih

/-! ## Statements -/

/-- What can be rendered on its own is neither a missing part of a statement nor a text. -/
theorem part_of_render {e : Expr} {text : String} {s t : Serializer}
    (h : Rendering.render (e.render d) s = .ok text t) :
    (e.piece d.toGrammar).part = [e.draft d.toGrammar] := by
  rcases e.part_cases d with rfl | ⟨_, rfl⟩ | ⟨hpart, -⟩
  · cases h
  · cases h
  · exact hpart

/-- Parts that can be rendered are the parts of a statement as they are. -/
theorem parts_of_itemTexts {es : List Expr} {texts : List String} {s u : Serializer}
    (h : itemTexts d es s = .ok texts u) :
    Piece.parts (es.map (piece d.toGrammar)) = Piece.drafts (es.map (piece d.toGrammar)) := by
  induction es generalizing s u texts with
  | nil => rfl
  | cons e es ih =>
      rw [itemTexts_cons] at h
      obtain ⟨text, t, hfirst, hrest⟩ := bind_eq_ok.1 h
      obtain ⟨more, v, hmore, -⟩ := bind_eq_ok.1 hrest
      have hparts := ih hmore
      rw [Piece.parts] at hparts ⊢
      rw [List.map_cons, List.flatMap_cons, part_of_render hfirst, hparts]
      rfl

end Expr

open Session

namespace Step

variable {d : Dialect}

/-- A step that appends parts to a statement leaves the serializer as it is. -/
theorem observe_append (es : List Expr) {s : SessionState}
    (text : s.serializer.written.stray = none) :
    ∃ rows, observe (perform d (.append es)) s =
      .ok () ⟨s.serializer,
        s.pending.map (· ++ Piece.parts (es.map (Expr.piece d.toGrammar))), rows⟩ := by
  have hshown : s.serializer.written.text = .ok (String.join s.serializer.written.chunks) :=
    Written.text_eq_ok.2 ⟨text, rfl⟩
  have hperform : perform d (.append es) s =
      .ok (.nothing, none) ⟨s.serializer,
        s.pending.map (· ++ Piece.parts (es.map (Expr.piece d.toGrammar))), s.rows⟩ := by
    rw [perform]
    rfl
  unfold observe
  rw [hperform]
  simp only [hshown]
  exact ⟨_, rfl⟩

/-- Parts are appended to a statement in one step or in several. -/
theorem runAll_append (runs : List (List Expr)) {s : SessionState} {parts : List Draft}
    (pending : s.pending = some parts) (text : s.serializer.written.stray = none) :
    ∃ rows, runAll d (runs.map Step.append) s =
      .ok () ⟨s.serializer,
        some (parts ++ Piece.parts (runs.flatten.map (Expr.piece d.toGrammar))), rows⟩ := by
  induction runs generalizing s parts with
  | nil =>
      refine ⟨s.rows, ?_⟩
      rw [List.flatten_nil, List.map_nil, List.map_nil, Piece.parts, List.flatMap_nil,
        List.append_nil, ← pending, runAll]
      rfl
  | cons run runs ih =>
      obtain ⟨rows, hstep⟩ := observe_append (d := d) run text
      rw [pending, Option.map_some] at hstep
      obtain ⟨rows', hrest⟩ := ih (s := ⟨s.serializer, _, rows⟩) rfl text
      refine ⟨rows', ?_⟩
      rw [List.map_cons, runAll]
      refine Session.bind_eq_ok.2 ⟨(), _, hstep, ?_⟩
      rw [hrest, List.flatten_cons, List.map_append, Piece.parts, Piece.parts, Piece.parts,
        List.flatMap_append, List.append_assoc]

/-- A statement renders its parts at the end, like a list of them with spaces in between. -/
theorem perform_statement (runs : List (List Expr)) {s : SessionState} {t : Serializer}
    (text : s.serializer.written.stray = none)
    (h : (Draft.phrase (Piece.parts (runs.flatten.map (Expr.piece d.toGrammar)))).run d.placeholder
      s.serializer = .ok () t) :
    ∃ rows, perform d (.statement (runs.map Step.append)) s =
      .ok (.nothing, some rows) { s with serializer := t } := by
  obtain ⟨rows, hruns⟩ := runAll_append (d := d) runs
    (s := { s with pending := some [], rows := [] }) rfl text
  rw [List.nil_append] at hruns
  have hinside : inside (runAll d (runs.map Step.append)) { s with pending := some [] } = .ok rows
      ⟨s.serializer, some (Piece.parts (runs.flatten.map (Expr.piece d.toGrammar))), s.rows⟩ :=
    inside_eq_ok.2 ⟨_, hruns, rfl, rfl⟩
  have hcollected : collected (inside (runAll d (runs.map Step.append))) s =
      .ok (rows, Piece.parts (runs.flatten.map (Expr.piece d.toGrammar))) s := by
    unfold collected
    rw [hinside]
    rfl
  refine ⟨rows, ?_⟩
  rw [perform]
  refine Session.bind_eq_ok.2 ⟨_, s, hcollected, ?_⟩
  simp only [act, h]

end Step

namespace Expr

/-- **Lists.** Take any state of a serializer and expressions that can be rendered one after the
other from there, each numbering its values behind those of the ones before. Their list appends the
texts that are not empty, with the separator between them, and nothing else, and leaves the values
and warnings of the expressions. A statement whose parts they are does the same as their list with
spaces, in however many steps the parts are appended. To put any runs of the expressions into lists
of their own with the same separator, and runs of these again, changes neither the text nor the
values and warnings, whether or not some of them render to nothing. -/
theorem list_laws (d : Dialect) (separator : String) (es : List Expr) {s u : Serializer}
    {texts : List String} (h : itemTexts d es s = .ok texts u) :
    ∃ t, (listOf separator es).render d s = .ok () t ∧
      t.sql = s.sql ++ separator.intercalate (Text.full texts) ∧
      t.written.stray = s.written.stray ∧
      s.binds <+: t.binds ∧ t.binds = u.binds ∧ t.warnings = u.warnings ∧
      (Draft.phrase (Piece.parts (es.map (piece d.toGrammar)))).run d.placeholder =
        (listOf " " es).render d ∧
      (∀ (runs : List (List Expr)) (session : SessionState), runs.flatten = es →
        session.serializer = s → s.written.stray = none →
          ∃ rows v, (listOf " " es).render d s = .ok () v ∧
            (Step.statement (runs.map .append)).perform d session =
              .ok (.nothing, some rows) { session with serializer := v }) ∧
      ∀ es', Regroups separator es es' →
        ∃ t', (listOf separator es').render d s = .ok () t' ∧ t'.sql = t.sql ∧
          t'.written.stray = t.written.stray ∧ t'.binds = t.binds ∧ t'.warnings = t.warnings := by
  have hrender (separator : String) : Rendering.render ((listOf separator es).render d) s =
      .ok (Text.joinFull separator texts) u := by
    rw [render_listOf, map_of_ok h]
  have hstatement : (Draft.phrase (Piece.parts (es.map (piece d.toGrammar)))).run d.placeholder =
      (listOf " " es).render d := by
    rw [parts_of_itemTexts h, render, draft_listOf]
    rfl
  obtain ⟨t, hrun, hsql, hbinds, hwarnings⟩ :=
    exists_run (render_isLocal d (listOf separator es)) (hrender separator)
  have hstray : t.written.stray = s.written.stray := listOf_isTextual es s t () hrun
  have hgrows := render_grows d (listOf separator es) s
  rw [hrun] at hgrows
  refine ⟨t, hrun, hsql, hstray, hgrows.binds, hbinds, hwarnings, hstatement, ?_, ?_⟩
  · rintro runs session rfl rfl text
    obtain ⟨v, hspaced, -⟩ := exists_run (render_isLocal d (listOf " " runs.flatten)) (hrender " ")
    obtain ⟨rows, hperform⟩ := Step.perform_statement runs text (by rw [hstatement, hspaced])
    exact ⟨rows, v, hspaced, hperform⟩
  · intro es' hregroups
    have hgrouped := hrender separator
    rw [← hregroups.render_eq] at hgrouped
    obtain ⟨t', hrun', hsql', hbinds', hwarnings'⟩ :=
      exists_run (render_isLocal d (listOf separator es')) hgrouped
    exact ⟨t', hrun', hsql'.trans hsql.symm, (listOf_isTextual es' s t' () hrun').trans hstray.symm,
      hbinds'.trans hbinds.symm, hwarnings'.trans hwarnings.symm⟩

/-- Two values, and two expressions without text, one of which is warned of. -/
def sparseItems : List Expr :=
  [.node (.bind (.value (.int 1))), .node (.raw ""), .node (.bind (.value (.int 2))),
    .node (.keyword (.operator .concatenate))]

/-- The same expressions in lists, one of them inside another, and one without text. -/
def groupedItems : List Expr :=
  [listOf ", " [listOf ", " [.node (.bind (.value (.int 1)))], .node (.raw "")],
    .node (.bind (.value (.int 2))), listOf ", " [.node (.keyword (.operator .concatenate))]]

/-- A serializer with some text and a value. -/
def started : Serializer where
  written := { chunks := ["SET "] }
  binds := [.null]

theorem list_laws_nested :
    (∃ t, (listOf ", " groupedItems).render .postgresql started = .ok () t ∧ t.sql = "SET $2, $3" ∧
        t.binds = [.null, .int 1, .int 2] ∧ t.warnings = [.concatenation]) ∧
      ∃ rows t, (Step.statement [.append (sparseItems.take 1), .append (sparseItems.drop 1)]).perform
          .postgresql ⟨started, none, []⟩ = .ok (.nothing, some rows) ⟨t, none, []⟩ ∧
        (listOf " " sparseItems).render .postgresql started = .ok () t := by
  have hitems : itemTexts .postgresql sparseItems started = .ok ["$2", "", "$3", ""]
      { started with binds := [.null, .int 1, .int 2], warnings := [.concatenation] } := by
    rfl
  have hgrouped : Regroups ", " sparseItems groupedItems :=
    ((Regroups.group [] (sparseItems.take 2) (sparseItems.drop 2)).trans
      (.inside [] (sparseItems.drop 2) (.group [] (sparseItems.take 1) [.node (.raw "")]))).trans
      (.group (groupedItems.take 2) (sparseItems.drop 3) [])
  obtain ⟨t, -, hsql, -, -, hbinds, hwarnings, -, hstatement, hregroups⟩ :=
    list_laws .postgresql ", " sparseItems hitems
  obtain ⟨t', hrun, hsql', -, hbinds', hwarnings'⟩ := hregroups groupedItems hgrouped
  obtain ⟨rows, v, hspaced, hperform⟩ :=
    hstatement [sparseItems.take 1, sparseItems.drop 1] ⟨started, none, []⟩ rfl rfl rfl
  refine ⟨⟨t', hrun, ?_, hbinds'.trans hbinds, hwarnings'.trans hwarnings⟩, rows, v, hperform,
    hspaced⟩
  rw [hsql', hsql]
  decide +kernel

end Expr

end SqlRender
