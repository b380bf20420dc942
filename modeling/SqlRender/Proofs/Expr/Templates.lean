import SqlRender.Expr.Build
import SqlRender.Proofs.Query.Sentence
import SqlRender.Proofs.Render.Growth

/-!
# Templates one after the other

Templates are put together by putting their fragments together, whatever stands in the place of one
of them, so that it does not matter in which order that is done (`Expr.append_assoc`). To render
what was put together is to render its parts one after the other (`Expr.render_append`). A join puts
the separator between all its elements, also next to one that renders to nothing
(`Expr.render_joinTemplates_eq_ok`).
-/

namespace SqlRender

open Rendering

namespace Expr

/-! ## Fragments -/

theorem orRaw_orRaw (e : Expr) : e.orRaw.orRaw = e.orRaw := by
  cases e with
  | value v => cases v <;> rfl
  | sequence isTuple items => rfl
  | node n => rfl

theorem fragments_template (es : List Expr) : (template es).fragments = es.map orRaw :=
  rfl

/-- Fragments that have been taken for raw text already stay as they are. -/
theorem template_map_orRaw_append (es fs : List Expr) :
    template (es.map orRaw ++ fs) = template (es ++ fs) := by
  simp [template, orRaw_orRaw]

theorem template_append_map_orRaw (es fs : List Expr) :
    template (es ++ fs.map orRaw) = template (es ++ fs) := by
  simp [template, orRaw_orRaw]

theorem template_append (es : List Expr) (f : Expr) :
    append (template es) f = template (es ++ f.fragments) := by
  rw [append, fragments_template, template_map_orRaw_append]

theorem append_template (e : Expr) (fs : List Expr) :
    append e (template fs) = template (e.fragments ++ fs) := by
  rw [append, fragments_template, template_append_map_orRaw]

/-- It does not matter which two of three are put together first. -/
theorem append_assoc (e f g : Expr) : append (append e f) g = append e (append f g) := by
  calc
    append (append e f) g = template (e.fragments ++ f.fragments ++ g.fragments) :=
      template_append _ g
    _ = template (e.fragments ++ (f.fragments ++ g.fragments)) := by rw [List.append_assoc]
    _ = append e (append f g) := (append_template e _).symm

theorem append_nothing (es : List Expr) : append (template es) (template []) = template es := by
  rw [append_template, List.append_nil, fragments_template]
  simpa using template_map_orRaw_append es []

theorem nothing_append (es : List Expr) : append (template []) (template es) = template es := by
  rw [template_append, List.nil_append, fragments_template]
  simpa using template_map_orRaw_append es []

/-! ## Joins -/

/-- A template with a separator and another one behind it. -/
def appendAfter (separator : Wording) (e f : Expr) : Expr :=
  append (append e (.node (.raw separator))) f

/-- The fragments that a further element of a join adds. -/
def furtherFragments (separator : Wording) (e : Expr) : List Expr :=
  .node (.raw separator) :: e.fragments

theorem intercalate_cons {α : Type} (sep xs : List α) (xss : List (List α)) :
    sep.intercalate (xs :: xss) = xs ++ xss.flatMap (sep ++ ·) := by
  induction xss generalizing xs with
  | nil => simp
  | cons ys xss ih => simp [List.intercalate_cons_cons, ih ys]

theorem joinTemplates_cons (separator : Wording) (e : Expr) (es : List Expr) :
    joinTemplates separator (e :: es) =
      template (e.fragments ++ es.flatMap (furtherFragments separator)) := by
  rw [joinTemplates, List.map_cons, intercalate_cons, List.flatMap_map]
  rfl

theorem foldl_appendAfter (separator : Wording) (fragments : List Expr) (es : List Expr) :
    es.foldl (appendAfter separator) (template fragments) =
      template (fragments ++ es.flatMap (furtherFragments separator)) := by
  induction es generalizing fragments with
  | nil => simp
  | cons e es ih =>
      have hstep : appendAfter separator (template fragments) e =
          template (fragments ++ furtherFragments separator e) := by
        rw [appendAfter, template_append, template_append, List.append_assoc]
        rfl
      rw [List.foldl_cons, hstep, ih, List.flatMap_cons, List.append_assoc]

/-- A join puts the elements behind the first one, each after a separator. -/
theorem joinTemplates_eq_foldl (separator : Wording) (fragments : List Expr) (es : List Expr) :
    joinTemplates separator (template fragments :: es) =
      es.foldl (appendAfter separator) (template fragments) := by
  rw [joinTemplates_cons, foldl_appendAfter, fragments_template, template_map_orRaw_append]

/-! ## Rendering -/

variable {d : Dialect}

theorem render_template (es : List Expr) :
    (template es).render d =
      Draft.run d.placeholder (.seq ((es.map orRaw).map (draft d.toGrammar))) := by
  rw [render, template, draft_node]
  show Draft.run d.placeholder (.seq (Piece.drafts _)) = _
  rw [Piece.drafts, List.map_map]
  rfl

/-- Fragments are rendered one after the other. -/
theorem render_template_append (es fs : List Expr) :
    (template (es ++ fs)).render d =
      (template es).render d >>= fun _ => (template fs).render d := by
  rw [render_template, List.map_append, List.map_append, Draft.run_seq_append, ← render_template,
    ← render_template]

theorem append_templates (es fs : List Expr) :
    append (template es) (template fs) = template (es ++ fs) := by
  rw [template_append, fragments_template, template_append_map_orRaw]

/-- Templates that are put together are rendered one after the other. -/
theorem render_append (es fs : List Expr) :
    (append (template es) (template fs)).render d =
      (template es).render d >>= fun _ => (template fs).render d := by
  rw [append_templates, render_template_append]

/-- The values of templates that are put together are numbered through. -/
theorem render_append_bind (es : List Expr) (value : Outline) :
    (append (template es) (.node (.bind value))).render d =
      (template es).render d >>= fun _ => writeBind d.placeholder value.bound := by
  have hlast : (template [.node (.bind value)]).render d = writeBind d.placeholder value.bound := by
    rw [render_template]
    exact bind_pure_unit
  rw [template_append, ← hlast]
  exact render_template_append es [.node (.bind value)]

/-- What is rendered for the elements of a join behind the first one. -/
def renderFurther (d : Dialect) (separator : String) : List Expr → Rendering Unit
  | [] => pure ()
  | e :: es => do
    write separator
    e.render d
    renderFurther d separator es

theorem renderFurther_isLocal (separator : String) (es : List Expr) :
    IsLocal (renderFurther d separator es) := by
  induction es with
  | nil => exact .pure ()
  | cons e es ih =>
      exact (IsLocal.write separator).bind fun _ => (render_isLocal d e).bind fun _ => ih

/-- The first element of a join is rendered, and then each of the others behind a separator. -/
theorem render_joinTemplates (separator : String) (fragments : List Expr)
    (rest : List (List Expr)) :
    (joinTemplates separator (template fragments :: rest.map template)).render d =
      (template fragments).render d >>= fun _ =>
        renderFurther d separator (rest.map template) := by
  rw [joinTemplates_cons, fragments_template, template_map_orRaw_append, render_template_append]
  refine congrArg ((template fragments).render d >>= ·) (funext fun _ => ?_)
  induction rest with
  | nil => exact render_template []
  | cons es rest ih =>
      have hseparator : (template [.node (.raw separator)]).render d = write separator := by
        rw [render_template]
        exact bind_pure_unit
      have hfirst : (template (furtherFragments separator (template es))).render d =
          write separator >>= fun _ => (template es).render d := by
        rw [furtherFragments, fragments_template, ← List.singleton_append,
          template_append_map_orRaw, render_template_append, hseparator]
      rw [List.map_cons, List.flatMap_cons, render_template_append, ih, hfirst, bind_assoc]
      rfl

theorem render_renderFurther_eq_ok (separator : String) (es : List Expr) {s u : Serializer}
    {text : String} :
    Rendering.render (renderFurther d separator es) s = .ok text u ↔
      ∃ texts, itemTexts d es s = .ok texts u ∧
        text = String.join (texts.map (separator ++ ·)) := by
  induction es generalizing s text with
  | nil =>
      rw [renderFurther, itemTexts, List.mapM_nil]
      constructor
      · intro h
        cases h
        exact ⟨[], rfl, rfl⟩
      · rintro ⟨texts, h, rfl⟩
        cases h
        rfl
  | cons e es ih =>
      have hlocal : IsLocal (e.render d >>= fun _ => renderFurther d separator es) :=
        (render_isLocal d e).bind fun _ => renderFurther_isLocal separator es
      rw [renderFurther, render_bind_eq_ok hlocal, render_write, itemTexts, List.mapM_cons]
      constructor
      · rintro ⟨_, _, _, hpure, hrest, rfl⟩
        obtain ⟨rfl, rfl⟩ := pure_eq_ok.1 hpure
        obtain ⟨first, t, more, hfirst, hmore, rfl⟩ :=
          (render_bind_eq_ok (renderFurther_isLocal separator es)).1 hrest
        obtain ⟨texts, htexts, rfl⟩ := ih.1 hmore
        refine ⟨first :: texts, ?_, ?_⟩
        · exact bind_eq_ok.2 ⟨first, t, hfirst, bind_eq_ok.2 ⟨texts, u, htexts, rfl⟩⟩
        · rw [List.map_cons, String.join_cons, String.append_assoc]
      · rintro ⟨_, hitems, rfl⟩
        obtain ⟨first, t, hfirst, hrest⟩ := bind_eq_ok.1 hitems
        obtain ⟨texts, v, htexts, hpure⟩ := bind_eq_ok.1 hrest
        obtain ⟨rfl, rfl⟩ := pure_eq_ok.1 hpure
        refine ⟨separator, s, _, rfl, (render_bind_eq_ok (renderFurther_isLocal separator es)).2
          ⟨first, t, _, hfirst, ih.2 ⟨texts, htexts, rfl⟩, rfl⟩, ?_⟩
        rw [List.map_cons, String.join_cons, String.append_assoc]

/-- The text of a join is made of the texts of all its elements with the separator between them. -/
theorem render_joinTemplates_eq_ok (separator : String) (rows : List (List Expr))
    {s u : Serializer} {text : String} :
    Rendering.render ((joinTemplates separator (rows.map template)).render d) s = .ok text u ↔
      ∃ texts, itemTexts d (rows.map template) s = .ok texts u ∧
        text = separator.intercalate texts := by
  cases rows with
  | nil =>
      have hnothing : (joinTemplates separator []).render d = pure () := render_template []
      rw [List.map_nil, hnothing, itemTexts, List.mapM_nil]
      constructor
      · intro h
        cases h
        exact ⟨[], rfl, rfl⟩
      · rintro ⟨texts, h, rfl⟩
        cases h
        rfl
  | cons es rows =>
      rw [List.map_cons, render_joinTemplates,
        render_bind_eq_ok (renderFurther_isLocal separator (rows.map template)), itemTexts,
        List.mapM_cons]
      constructor
      · rintro ⟨first, t, more, hfirst, hmore, rfl⟩
        obtain ⟨texts, htexts, rfl⟩ := (render_renderFurther_eq_ok separator _).1 hmore
        refine ⟨first :: texts, ?_, (Text.intercalate_cons ..).symm⟩
        exact bind_eq_ok.2 ⟨first, t, hfirst, bind_eq_ok.2 ⟨texts, u, htexts, rfl⟩⟩
      · rintro ⟨_, hitems, rfl⟩
        obtain ⟨first, t, hfirst, hrest⟩ := bind_eq_ok.1 hitems
        obtain ⟨texts, v, htexts, hpure⟩ := bind_eq_ok.1 hrest
        obtain ⟨rfl, rfl⟩ := pure_eq_ok.1 hpure
        exact ⟨first, t, _, hfirst,
          (render_renderFurther_eq_ok separator _).2 ⟨texts, htexts, rfl⟩,
          Text.intercalate_cons ..⟩

/-- **Templates.** Putting templates together is associative, also with a text or any other
expression in the place of one of them, and the template without fragments changes nothing on either
side: it gives the same tree, and not only one whose values are equal. A join is a fold that puts
the separator in front of each element but the first. To render two templates that were put together
is to render one and then the other, in every state and with the same values, warnings and faults,
so that values are numbered through; and a join writes the separator between every two elements,
whether or not they have text. -/
theorem template_laws (d : Dialect) :
    (∀ (as bs cs : List Expr) (x : Expr),
      let a := template as
      let b := template bs
      let c := template cs
      append (append a b) c = append a (append b c) ∧
        append (append x a) b = append x (append a b) ∧
        append (append a x) b = append a (append x b) ∧
        append (template []) a = a ∧ append a (template []) = a) ∧
      (∀ separator : Wording, joinTemplates separator [] = template [] ∧
        ∀ (as : List Expr) (rest : List (List Expr)),
          joinTemplates separator ((as :: rest).map template) =
            (rest.map template).foldl
              (fun e f => append (append e (.node (.raw separator))) f) (template as)) ∧
      (∀ as bs : List Expr, (append (template as) (template bs)).render d =
        (template as).render d >>= fun _ => (template bs).render d) ∧
      (∀ (as : List Expr) (value : Outline) (s t : Serializer),
        (template as).render d s = .ok () t →
          s.binds <+: t.binds ∧
            (append (template as) (.node (.bind value))).render d s =
              writeBind d.placeholder value.bound t) ∧
      ∀ separator : String,
        (∀ (as : List Expr) (rest : List (List Expr)),
          (joinTemplates separator ((as :: rest).map template)).render d =
            (template as).render d >>= fun _ => renderFurther d separator (rest.map template)) ∧
        ∀ (rows : List (List Expr)) (s u : Serializer) (text : String),
          Rendering.render ((joinTemplates separator (rows.map template)).render d) s =
              .ok text u ↔
            ∃ texts, itemTexts d (rows.map template) s = .ok texts u ∧
              text = separator.intercalate texts := by
  refine ⟨?_, ?_, fun as bs => render_append as bs, ?_, fun separator => ⟨?_, ?_⟩⟩
  · intro as bs cs x a b c
    exact ⟨append_assoc a b c, append_assoc x a b, append_assoc a x b, nothing_append as,
      append_nothing as⟩
  · intro separator
    exact ⟨rfl, fun as rest => joinTemplates_eq_foldl separator as (rest.map template)⟩
  · intro as value s t h
    have hgrows := render_grows d (template as) s
    rw [h] at hgrows
    refine ⟨hgrows.binds, ?_⟩
    rw [render_append_bind, bind_of_ok h]
  · exact fun as rest => render_joinTemplates separator as rest
  · exact fun rows s u text => render_joinTemplates_eq_ok separator rows

/-- A value that is put behind a template with a value is the second one. -/
theorem template_laws_numbered :
    (append (template [.value (.text "a = "), .node (.bind (.value (.int 1)))])
        (.node (.bind (.value (.int 2))))).render .postgresql {} =
      .ok () { written := { chunks := ["a = ", "$1", "$2"] }, binds := [.int 1, .int 2] } := by
  obtain ⟨-, -, -, hnumbered, -⟩ := template_laws .postgresql
  exact (hnumbered [.value (.text "a = "), .node (.bind (.value (.int 1)))] (.value (.int 2)) {}
    { written := { chunks := ["a = ", "$1"] }, binds := [.int 1] } rfl).2

end Expr

end SqlRender
