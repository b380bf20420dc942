import SqlRender.Proofs.Render.Success

/-!
# Texts put together

What a phrase, a list or a clause renders to is told by the texts that its parts render to in turn:
those that are not empty, with the separator between them (`Draft.render_join`), after the keyword
if there are any (`Draft.render_clause`). These are equations between renderings and hold in every
state, so that they also say which values are bound, what is warned of, and in which fault a
rendering ends.
-/

namespace SqlRender

namespace Text

/-- The texts that are not empty. -/
def full (texts : List String) : List String :=
  texts.filter (!·.isEmpty)

/-- The texts that are not empty with a separator between them. -/
def joinFull (separator : String) (texts : List String) : String :=
  separator.intercalate (full texts)

/-- The texts that are not empty, each but the first behind a separator. -/
def joinFrom (separator : String) (first : Bool) : List String → String
  | [] => ""
  | x :: xs =>
    if x.isEmpty then joinFrom separator first xs
    else (if first then "" else separator) ++ x ++ joinFrom separator false xs

/-- A keyword and a body, or nothing if the body is empty. -/
def clause (keyword body : String) : String :=
  if body.isEmpty then "" else keyword ++ " " ++ body

theorem full_append (xs ys : List String) : full (xs ++ ys) = full xs ++ full ys :=
  List.filter_append xs ys

theorem full_cons (x : String) (xs : List String) :
    full (x :: xs) = if x.isEmpty then full xs else x :: full xs := by
  rw [full, List.filter_cons]
  cases x.isEmpty <;> rfl

/-- Texts none of which is empty are all kept. -/
theorem full_eq_self {texts : List String} (h : ∀ text ∈ texts, text ≠ "") :
    full texts = texts := by
  refine List.filter_eq_self.2 fun text hmem => ?_
  simpa using h text hmem

theorem joinFrom_false (separator : String) (xs : List String) :
    joinFrom separator false xs = String.join ((full xs).map (separator ++ ·)) := by
  induction xs with
  | nil => rfl
  | cons x xs ih =>
      rw [joinFrom, full_cons]
      split
      · exact ih
      · rw [List.map_cons, String.join_cons, ih]
        rfl

theorem intercalate_cons (separator x : String) (xs : List String) :
    separator.intercalate (x :: xs) = x ++ String.join (xs.map (separator ++ ·)) := by
  induction xs generalizing x with
  | nil => simp
  | cons y ys ih =>
      rw [String.intercalate_cons_cons, ih, List.map_cons, String.join_cons, String.append_assoc,
        String.append_assoc]

theorem joinFull_single (separator x : String) : joinFull separator [x] = x := by
  rw [joinFull, full_cons]
  split
  · rename_i h
    rw [String.isEmpty_iff] at h
    rw [h]
    rfl
  · exact String.intercalate_singleton

theorem joinFull_eq (separator : String) (xs : List String) :
    joinFull separator xs = joinFrom separator true xs := by
  induction xs with
  | nil => rfl
  | cons x xs ih =>
      rw [joinFull, full_cons, joinFrom]
      split
      · exact ih
      · rw [intercalate_cons, joinFrom_false, if_pos rfl, String.empty_append]

/-- A run of texts at the front counts as one text, which is empty if they all are. -/
theorem joinFrom_append (separator : String) (first : Bool) (xs ys : List String) :
    joinFrom separator first (xs ++ ys) =
      if joinFull separator xs = "" then joinFrom separator first ys
      else (if first then "" else separator) ++ joinFull separator xs ++
        joinFrom separator false ys := by
  induction xs generalizing first ys with
  | nil => rfl
  | cons x xs ih =>
      rw [List.cons_append, joinFrom, joinFull_eq, joinFrom]
      cases hx : x.isEmpty with
      | true => rw [if_pos rfl, if_pos rfl, ih, ← joinFull_eq]
      | false =>
          have hne : x ≠ "" := by simpa using hx
          have hrest := ih false []
          rw [List.append_nil, joinFrom] at hrest
          rw [if_neg Bool.false_ne_true, if_neg Bool.false_ne_true, if_pos rfl, String.empty_append,
            ih, hrest]
          by_cases hxs : joinFull separator xs = ""
          · simp [hne, hxs]
          · simp [hne, hxs, String.append_assoc]

/-- Runs of texts may be joined before all of them are. -/
theorem joinFull_flatten (separator : String) (runs : List (List String)) :
    joinFull separator runs.flatten = joinFull separator (runs.map (joinFull separator)) := by
  rw [joinFull_eq, joinFull_eq]
  -- which run is the first to have text depends on those before it
  suffices h : ∀ first, joinFrom separator first runs.flatten =
      joinFrom separator first (runs.map (joinFull separator)) from h true
  induction runs with
  | nil =>
      intro first
      rfl
  | cons run runs ih =>
      intro first
      rw [List.flatten_cons, joinFrom_append, List.map_cons, joinFrom, ih, ih]
      simp only [String.isEmpty_iff]

/-- With nothing between the texts it does not matter that empty ones are left out. -/
theorem joinFull_nothing (texts : List String) : joinFull "" texts = String.join texts := by
  rw [joinFull_eq]
  suffices h : ∀ first, joinFrom "" first texts = String.join texts from h true
  induction texts with
  | nil =>
      intro first
      rfl
  | cons x xs ih =>
      intro first
      rw [joinFrom, String.join_cons, ih, ih]
      split
      · rename_i hx
        rw [String.isEmpty_iff.1 hx, String.empty_append]
      · rw [ite_self, String.empty_append]

/-- Nothing comes of texts that are empty, and of no others. -/
theorem joinFull_eq_empty (separator : String) (texts : List String) :
    joinFull separator texts = "" ↔ ∀ text ∈ texts, text = "" := by
  rw [joinFull_eq]
  induction texts with
  | nil => simp [joinFrom]
  | cons x xs ih =>
      rw [joinFrom, List.forall_mem_cons, ← ih]
      by_cases h : x = ""
      · simp [h]
      · simp [h]

theorem clause_eq_empty (keyword body : String) : clause keyword body = "" ↔ body = "" := by
  unfold clause
  split
  · rename_i hbody
    simpa using hbody
  · rename_i hbody
    simp_all

end Text

namespace Rendering

variable {α : Type}

/-! ## What a render gives -/

/-- Nothing that is no text is written. -/
def IsTextual (m : Rendering α) : Prop :=
  ∀ (s t : Serializer) (a : α), m s = .ok a t → t.written.stray = s.written.stray

namespace IsTextual

variable {β : Type}

theorem pure (a : α) : IsTextual (Pure.pure a) := by
  intro s t b h
  obtain ⟨-, rfl⟩ := pure_eq_ok.1 h
  rfl

theorem bind {m : Rendering α} {k : α → Rendering β} (hm : IsTextual m)
    (hk : ∀ a, IsTextual (k a)) : IsTextual (m >>= k) := by
  intro s t b h
  obtain ⟨a, u, hfirst, hrest⟩ := bind_eq_ok.1 h
  exact (hk a u t b hrest).trans (hm s u a hfirst)

theorem write (text : String) : IsTextual (write text) := by
  intro s t u h
  rw [write_eq_ok] at h
  subst h
  split <;> rfl

theorem render (body : Rendering Unit) : IsTextual (render body) := by
  intro s t text h
  obtain ⟨u, -, -, rfl⟩ := render_eq_ok.1 h
  rfl

end IsTextual

theorem bind_of_ok {β : Type} {m : Rendering α} {k : α → Rendering β} {s t : Serializer} {a : α}
    (h : m s = .ok a t) : (m >>= k) s = k a t := by
  show EStateM.bind m k s = _
  rw [EStateM.bind, h]

theorem bind_of_error {β : Type} {m : Rendering α} {k : α → Rendering β} {s t : Serializer}
    {fault : Fault} (h : m s = .error fault t) : (m >>= k) s = .error fault t := by
  show EStateM.bind m k s = _
  rw [EStateM.bind, h]

theorem map_of_ok {β : Type} {m : Rendering α} {f : α → β} {s t : Serializer} {a : α}
    (h : m s = .ok a t) : (f <$> m) s = .ok (f a) t := by
  rw [map_eq_pure_bind, bind_of_ok h]
  rfl

theorem map_of_error {β : Type} {m : Rendering α} {f : α → β} {s t : Serializer} {fault : Fault}
    (h : m s = .error fault t) : (f <$> m) s = .error fault t := by
  rw [map_eq_pure_bind, bind_of_error h]

/-- What is left when a body that was run on its own has ended. -/
def finish (written : Written) : EStateM.Result Fault Serializer Unit →
    EStateM.Result Fault Serializer String
  | .ok _ u =>
    match u.written.text with
    | .ok text => .ok text { u with written := written }
    | .error fault => .error fault { u with written := written }
  | .error fault u => .error fault { u with written := written }

/-- A render runs its body on its own and puts back what was written before. -/
theorem render_eq (body : Rendering Unit) (s : Serializer) :
    render body s = finish s.written (body { s with written := {} }) := by
  rw [render]
  cases hbody : body { s with written := {} } with
  | error fault u =>
      have hcapture : capture body s = .error fault { u with written := s.written } := by
        rw [capture, hbody]
      rw [bind_of_error hcapture, finish]
  | ok v u =>
      have hcapture : capture body s = .ok u.written { u with written := s.written } := by
        rw [capture, hbody]
      rw [bind_of_ok hcapture, finish]
      cases u.written.text <;> rfl

theorem render_write (text : String) : render (write text) = pure text := by
  funext s
  rw [render_eq, write]
  by_cases h : text = ""
  · subst h
    rfl
  · rw [if_neg (by simpa using h), finish]
    simp [Written.text]
    rfl

/-- What is rendered on the way is rendered before. -/
theorem render_bind_render (body : Rendering Unit) (k : String → Rendering Unit) :
    render (render body >>= k) = render body >>= fun text => render (k text) := by
  funext s
  rw [render_eq]
  -- a body is run on its own whether or not something was written before
  have hbody := render_eq body { s with written := {} }
  have hbody' := render_eq body s
  simp only at hbody
  cases hrun : body { s with written := {} } with
  | error fault u =>
      rw [hrun, finish] at hbody hbody'
      rw [bind_of_error hbody, bind_of_error hbody', finish]
  | ok v u =>
      rw [hrun, finish] at hbody hbody'
      cases htext : u.written.text with
      | error fault =>
          simp only [htext] at hbody hbody'
          rw [bind_of_error hbody, bind_of_error hbody', finish]
      | ok text =>
          simp only [htext] at hbody hbody'
          rw [bind_of_ok hbody, bind_of_ok hbody', render_eq]

/-- A text that is written stands behind the text so far, if there is one. -/
theorem exists_written (text : String) (s : Serializer) :
    ∃ w, write text s = .ok () { s with written := w } ∧
      w.text = s.written.text.map (· ++ text) := by
  by_cases h : text = ""
  · refine ⟨s.written, by simp [write, h], ?_⟩
    cases s.written.text <;> simp [Except.map, h]
  · refine ⟨{ s.written with chunks := s.written.chunks ++ [text] }, by simp [write, h], ?_⟩
    unfold Written.text
    cases s.written.stray <;> simp [Except.map]

/-- What is written last ends the text. -/
theorem render_bind_write (m : Rendering Unit) (text : String) :
    render (m >>= fun _ => write text) = (· ++ text) <$> render m := by
  funext s
  have hm := render_eq m s
  rw [render_eq]
  cases hrun : m { s with written := {} } with
  | error fault u =>
      rw [hrun, finish] at hm
      rw [bind_of_error hrun, map_of_error hm, finish]
  | ok v u =>
      rw [hrun, finish] at hm
      obtain ⟨w, hwrite, hw⟩ := exists_written text u
      rw [bind_of_ok hrun, hwrite, finish]
      cases htext : u.written.text with
      | error fault =>
          simp only [htext] at hm hw
          rw [map_of_error hm]
          simp only [hw, Except.map]
      | ok before =>
          simp only [htext] at hm hw
          rw [map_of_ok hm]
          simp only [hw, Except.map]

/-- What is written first begins the text. -/
theorem render_write_bind (text : String) {m : Rendering Unit} (hlocal : IsLocal m)
    (textual : IsTextual m) :
    render (write text >>= fun _ => m) = (text ++ ·) <$> render m := by
  funext s
  have hm := render_eq m s
  obtain ⟨w, hwrite, hw⟩ := exists_written text { s with written := {} }
  -- what `m` writes stands behind `w`, and is otherwise what it writes on its own
  have hafter : m { s with written := w } = endsAfter w (m { s with written := {} }) := by
    rw [← hlocal w { s with written := {} }, Serializer.after, Written.append_nothing]
  rw [render_eq, bind_of_ok hwrite, hafter]
  cases hrun : m { s with written := {} } with
  | error fault u =>
      rw [hrun, finish] at hm
      rw [map_of_error hm, endsAfter, finish, Serializer.after]
  | ok v u =>
      have hstray : u.written.stray = none := textual _ _ _ hrun
      have hown : u.written.text = .ok (String.join u.written.chunks) :=
        Written.text_eq_ok.2 ⟨hstray, rfl⟩
      have htext : (w.append u.written).text = .ok (text ++ String.join u.written.chunks) :=
        Written.text_append_eq_ok.2
          ⟨text, _, by rw [hw]; simp [Written.text, Except.map], hown, rfl⟩
      rw [hrun, finish] at hm
      simp only [hown] at hm
      rw [map_of_ok hm, endsAfter, finish, Serializer.after]
      simp only [htext]

/-! ## Running and rendering -/

/-- A rendering is carried out where its text can be given, and appends that text. -/
theorem exists_run {m : Rendering Unit} (hlocal : IsLocal m) {s u : Serializer} {text : String}
    (h : render m s = .ok text u) :
    ∃ t, m s = .ok () t ∧ t.sql = s.sql ++ text ∧ t.binds = u.binds ∧
      t.warnings = u.warnings := by
  obtain ⟨v, hrun, htext, rfl⟩ := render_eq_ok.1 h
  obtain ⟨-, rfl⟩ := Written.text_eq_ok.1 htext
  refine ⟨v.after s.written, ?_, ?_, rfl, rfl⟩
  · rw [hlocal.eq_endsAfter, hrun, endsAfter]
  · rw [Serializer.sql, Serializer.after, Written.append, String.join_append]
    rfl

/-- Where nothing but text is written, a rendering that is carried out appends the text that it
gives when it is rendered on its own. -/
theorem exists_render {m : Rendering Unit} (hlocal : IsLocal m) (textual : IsTextual m)
    {s t : Serializer} (h : m s = .ok () t) :
    ∃ text u, render m s = .ok text u ∧ t.sql = s.sql ++ text ∧ t.binds = u.binds ∧
      t.warnings = u.warnings := by
  have hown := hlocal.eq_endsAfter s
  rw [h] at hown
  cases hrun : m { s with written := {} } with
  | error fault u =>
      rw [hrun] at hown
      cases hown
  | ok v u =>
      have hstray : u.written.stray = none := textual _ _ _ hrun
      have hrender : render m s =
          .ok (String.join u.written.chunks) { u with written := s.written } :=
        render_eq_ok.2 ⟨u, hrun, Written.text_eq_ok.2 ⟨hstray, rfl⟩, rfl⟩
      obtain ⟨t', ht', hsql, hbinds, hwarnings⟩ := exists_run hlocal hrender
      rw [h] at ht'
      cases ht'
      exact ⟨_, _, hrender, hsql, hbinds, hwarnings⟩

/-- What is rendered by two renderings in turn has the text of both. -/
theorem render_bind_eq_ok {m n : Rendering Unit} (hlocal : IsLocal n) {s u : Serializer}
    {text : String} :
    render (m >>= fun _ => n) s = .ok text u ↔
      ∃ first t second, render m s = .ok first t ∧ render n t = .ok second u ∧
        text = first ++ second := by
  constructor
  · intro h
    obtain ⟨w, hrun, htext, rfl⟩ := render_eq_ok.1 h
    obtain ⟨⟨⟩, v, hfirst, hsecond⟩ := bind_eq_ok.1 hrun
    rw [hlocal.eq_endsAfter] at hsecond
    cases hown : n { v with written := {} } with
    | error fault w' =>
        rw [hown] at hsecond
        cases hsecond
    | ok _ w' =>
        rw [hown] at hsecond
        cases hsecond
        obtain ⟨first, second, hfirstText, hsecondText, rfl⟩ := Written.text_append_eq_ok.1 htext
        exact ⟨first, { v with written := s.written }, second,
          render_eq_ok.2 ⟨v, hfirst, hfirstText, rfl⟩,
          render_eq_ok.2 ⟨w', hown, hsecondText, rfl⟩, rfl⟩
  · rintro ⟨first, t, second, hfirst, hsecond, rfl⟩
    obtain ⟨v, hrun, hfirstText, rfl⟩ := render_eq_ok.1 hfirst
    obtain ⟨w, hown, hsecondText, rfl⟩ := render_eq_ok.1 hsecond
    refine render_eq_ok.2 ⟨w.after v.written, bind_eq_ok.2 ⟨(), v, hrun, ?_⟩, ?_, rfl⟩
    · rw [hlocal.eq_endsAfter, hown, endsAfter]
    · exact Written.text_append_eq_ok.2 ⟨first, second, hfirstText, hsecondText, rfl⟩

/-- What comes of a rendering is told by what it renders to. -/
theorem ending_eq (m : Rendering Unit) :
    ending (m {}) =
      match render m {} with
      | .ok text u => (.ok ⟨text, u.binds⟩, u.warnings)
      | .error fault u => (.error fault, u.warnings) := by
  rw [render_eq]
  cases m {} with
  | error fault u => rfl
  | ok v u =>
      rw [ending, finish]
      cases u.written.text <;> rfl

end Rendering

/-- A query comes of a rendering that gives a text, and has the values that were bound. -/
theorem Database.outcome_eq_ok_render {db : Database} {elapsed : Float} {e : Expr}
    {q : RenderedQuery} :
    (db.render elapsed e).outcome = .ok q ↔
      ∃ u, Rendering.render (e.render db.dialect) {} = .ok q.sql u ∧ u.binds = q.binds := by
  rw [Database.outcome_eq_ok]
  constructor
  · rintro ⟨s, hrun, htext, hbinds⟩
    exact ⟨_, Rendering.render_eq_ok.2 ⟨s, hrun, htext, rfl⟩, hbinds⟩
  · rintro ⟨u, hrender, hbinds⟩
    obtain ⟨s, hrun, htext, rfl⟩ := Rendering.render_eq_ok.1 hrender
    exact ⟨s, hrun, htext, hbinds⟩

/-- A rendering that binds nothing and gives a text is a query of this text. -/
theorem Database.outcome_of_render {db : Database} {elapsed : Float} {e : Expr} {text : String}
    (h : Rendering.render (e.render db.dialect) = pure text) :
    (db.render elapsed e).outcome = .ok ⟨text, []⟩ := by
  rw [db.outcome_eq, Rendering.ending_eq, h]
  rfl

/-- Expressions that render alike are reported alike. -/
theorem Database.render_congr (db : Database) (elapsed : Float) {e e' : Expr}
    (h : Rendering.render (e.render db.dialect) {} = Rendering.render (e'.render db.dialect) {}) :
    db.render elapsed e = db.render elapsed e' := by
  have hending : Rendering.ending (e.render db.dialect {}) =
      Rendering.ending (e'.render db.dialect {}) := by
    rw [Rendering.ending_eq, Rendering.ending_eq, h]
  rw [← db.render_ending elapsed, ← db.render_ending elapsed] at hending
  have houtcome : (db.render elapsed e).outcome = (db.render elapsed e').outcome :=
    congrArg Prod.fst hending
  have hwarnings : (db.render elapsed e).warnings = (db.render elapsed e').warnings :=
    congrArg Prod.snd hending
  have hrecords : (db.render elapsed e).records = (db.render elapsed e').records := by
    rw [db.records_eq, db.records_eq, houtcome, hwarnings]
  exact congrArg₂ Report.mk houtcome hrecords

namespace Draft

open Rendering

variable {placeholder : Int → String}

/-! ## What drafts render to -/

/-- Drafts one after the other may be run in two halves. -/
theorem run_seq_append (ds es : List Draft) :
    run placeholder (.seq (ds ++ es)) =
      run placeholder (.seq ds) >>= fun _ => run placeholder (.seq es) := by
  rw [run, run, run]
  induction ds with
  | nil => rfl
  | cons d ds ih => rw [List.cons_append, runAll, runAll, ih, bind_assoc]

/-- A list with a text between its items writes nothing but texts. -/
theorem runJoined_isTextual (separator : String) (first : Bool) (ds : List Draft) :
    IsTextual (runJoined placeholder (write separator) first ds) := by
  induction ds generalizing first with
  | nil => exact .pure ()
  | cons d ds ih =>
      rw [runJoined_cons]
      refine (IsTextual.render _).bind fun text => ?_
      split
      · exact ih first
      · refine IsTextual.bind ?_ fun _ => (IsTextual.write text).bind fun _ => ih false
        split
        · exact .pure ()
        · exact .write separator

theorem phrase_isTextual (ds : List Draft) : IsTextual (run placeholder (.phrase ds)) := by
  rw [phrase, run, Separator.write]
  exact runJoined_isTextual " " true ds

/-- The texts of several drafts, rendered in turn. -/
def renderAll (placeholder : Int → String) (ds : List Draft) : Rendering (List String) :=
  ds.mapM fun d => render (d.run placeholder)

theorem renderAll_cons (d : Draft) (ds : List Draft) :
    renderAll placeholder (d :: ds) = do
      let text ← render (d.run placeholder)
      let texts ← renderAll placeholder ds
      return text :: texts := by
  rw [renderAll, List.mapM_cons]
  rfl

/-- Texts render to themselves. -/
theorem renderAll_texts (texts : List String) :
    renderAll placeholder (texts.map .text) = pure texts := by
  induction texts with
  | nil => rfl
  | cons text texts ih =>
      have htext : render (run placeholder (.text text)) = pure text := render_write text
      rw [List.map_cons, renderAll_cons, htext, ih, pure_bind, pure_bind]

/-- What is joined renders to the texts of the items with the separator between them. -/
theorem render_runJoined (separator : String) (first : Bool) (ds : List Draft) :
    render (runJoined placeholder (write separator) first ds) =
      Text.joinFrom separator first <$> renderAll placeholder ds := by
  induction ds generalizing first with
  | nil => rfl
  | cons d ds ih =>
      rw [runJoined_cons, render_bind_render, renderAll_cons, map_bind]
      refine congrArg (render (d.run placeholder) >>= ·) (funext fun text => ?_)
      rw [map_bind]
      simp only [map_pure, Text.joinFrom]
      -- an item without text leaves the flag as it is, so that the next one may still be the first
      cases hempty : text.isEmpty with
      | true =>
          rw [if_pos rfl, ih, map_eq_pure_bind]
          rfl
      | false =>
          have hrest : IsLocal (runJoined placeholder (write separator) false ds) :=
            runJoined_isLocal placeholder (.write separator) false ds
          have htextual : IsTextual (runJoined placeholder (write separator) false ds) :=
            runJoined_isTextual separator false ds
          have hitem := render_write_bind text hrest htextual
          rw [if_neg Bool.false_ne_true]
          cases first with
          | true =>
              rw [if_pos rfl, pure_bind, hitem, ih, Functor.map_map, map_eq_pure_bind]
              simp
          | false =>
              rw [if_neg Bool.false_ne_true,
                render_write_bind separator ((IsLocal.write text).bind fun _ => hrest)
                  ((IsTextual.write text).bind fun _ => htextual),
                hitem, ih, Functor.map_map, Functor.map_map, map_eq_pure_bind]
              simp [String.append_assoc]

theorem render_text (s : String) : render (run placeholder (.text s)) = pure s :=
  render_write s

/-- Texts one after the other render to one text. -/
theorem render_texts (texts : List String) :
    render (run placeholder (.seq (texts.map .text))) = pure (String.join texts) := by
  have htextual (texts : List String) :
      IsTextual (runAll placeholder (texts.map Draft.text)) := by
    induction texts with
    | nil => exact .pure ()
    | cons text texts ih =>
        rw [List.map_cons, runAll, run]
        exact (IsTextual.write text).bind fun _ => ih
  rw [run]
  induction texts with
  | nil => rfl
  | cons text texts ih =>
      rw [List.map_cons, runAll, run, render_write_bind text (runAll_isLocal placeholder _)
        (htextual texts), ih, map_pure, String.join_cons]

/-- A list renders to the texts of its items with the separator between them. -/
theorem render_join (separator : String) (ds : List Draft) :
    render (run placeholder (.join (.text separator) ds)) =
      Text.joinFull separator <$> renderAll placeholder ds := by
  rw [run, Separator.write, render_runJoined]
  exact congrArg (· <$> renderAll placeholder ds) (funext fun texts => (Text.joinFull_eq ..).symm)

/-- A clause renders to its keyword and the text of its body. -/
theorem render_clause (keyword : String) (d : Draft) :
    render (run placeholder (.clause keyword d)) =
      Text.clause keyword <$> render (d.run placeholder) := by
  rw [run, render_bind_render, map_eq_pure_bind]
  refine congrArg (render (d.run placeholder) >>= ·) (funext fun text => ?_)
  rw [Text.clause]
  split
  · rfl
  · exact render_write _

theorem run_group (ds : List Draft) :
    run placeholder (.group ds) =
      write "(" >>= fun _ => runJoined placeholder (write ", ") true ds >>= fun _ => write ")" := by
  have hitems : run placeholder (.join ", " ds) = runJoined placeholder (write ", ") true ds := by
    rw [run, Separator.write]
  rw [group, run, runAll, runAll, runAll, runAll, hitems, run, run, bind_pure_unit]

theorem group_isTextual (ds : List Draft) : IsTextual (run placeholder (.group ds)) := by
  rw [run_group]
  exact (IsTextual.write "(").bind fun _ =>
    (runJoined_isTextual ", " true ds).bind fun _ => .write ")"

/-- A group renders to the texts of its items with commas between them, in parentheses. -/
theorem render_group (ds : List Draft) :
    render (run placeholder (.group ds)) =
      (fun texts => "(" ++ Text.joinFull ", " texts ++ ")") <$> renderAll placeholder ds := by
  rw [run_group, render_write_bind, render_bind_write, render_runJoined, Functor.map_map,
    Functor.map_map]
  · refine congrArg (· <$> renderAll placeholder ds) (funext fun texts => ?_)
    rw [← Text.joinFull_eq, String.append_assoc]
  · exact (runJoined_isLocal placeholder (.write ", ") true ds).bind fun _ => .write ")"
  · exact (runJoined_isTextual ", " true ds).bind fun _ => .write ")"

/-- A call renders to its name and the texts of its arguments. -/
theorem render_call (name : String) (ds : List Draft) :
    render (run placeholder (.seq [.text name, .group ds])) =
      (fun texts => name ++ ("(" ++ Text.joinFull ", " texts ++ ")")) <$>
        renderAll placeholder ds := by
  have hrun : run placeholder (.seq [.text name, .group ds]) =
      write name >>= fun _ => run placeholder (.group ds) := by
    rw [run, runAll, runAll, runAll, bind_pure_unit, run]
  rw [hrun, render_write_bind name (run_isLocal placeholder _) (group_isTextual ds), render_group,
    Functor.map_map]

/-! ## Phrases -/

/-- The texts that drafts add to a phrase. -/
def fullTexts (placeholder : Int → String) (ds : List Draft) : Rendering (List String) :=
  Text.full <$> renderAll placeholder ds

/-- A phrase renders to the texts of its parts with spaces between them. -/
theorem render_phrase (ds : List Draft) :
    render (run placeholder (.phrase ds)) = " ".intercalate <$> fullTexts placeholder ds := by
  rw [phrase, render_join, fullTexts, Functor.map_map]
  rfl

/-- A phrase may be rendered in two halves. -/
theorem render_phrase_append (ds es : List Draft) :
    render (run placeholder (.phrase (ds ++ es))) = do
      let first ← render (run placeholder (.phrase ds))
      let second ← render (run placeholder (.phrase es))
      return Text.joinFull " " [first, second] := by
  have hjoin (texts more : List String) : Text.joinFull " " (texts ++ more) =
      Text.joinFull " " [Text.joinFull " " texts, Text.joinFull " " more] := by
    simpa using Text.joinFull_flatten " " [texts, more]
  have hphrase (ds : List Draft) : render (run placeholder (.phrase ds)) =
      Text.joinFull " " <$> renderAll placeholder ds :=
    render_join " " ds
  rw [hphrase, hphrase, hphrase, renderAll, List.mapM_append]
  simp only [map_bind, bind_map_left, map_pure, hjoin]
  rfl

theorem fullTexts_append (ds es : List Draft) :
    fullTexts placeholder (ds ++ es) = do
      let texts ← fullTexts placeholder ds
      let more ← fullTexts placeholder es
      return texts ++ more := by
  rw [fullTexts, renderAll, List.mapM_append, fullTexts, fullTexts]
  simp [renderAll, Text.full_append]

theorem fullTexts_single (d : Draft) :
    fullTexts placeholder [d] = (fun text => Text.full [text]) <$> render (d.run placeholder) := by
  rw [fullTexts, renderAll_cons]
  simp [renderAll]

/-- What several things add to a phrase, each of them by itself. -/
theorem fullTexts_flatMap {α : Type} {f : α → List Draft} {h : α → Rendering (List String)}
    (each : ∀ x, fullTexts placeholder (f x) = Text.full <$> h x) (xs : List α) :
    fullTexts placeholder (xs.flatMap f) =
      (fun texts => Text.full texts.flatten) <$> xs.mapM h := by
  induction xs with
  | nil => rfl
  | cons x xs ih =>
      rw [List.flatMap_cons, fullTexts_append, ih, each, List.mapM_cons]
      simp [Text.full_append]

/-- Words in a phrase are its texts, if they are not empty. -/
theorem fullTexts_words (words : List String) :
    fullTexts placeholder (words.map Draft.text) = pure (Text.full words) := by
  induction words with
  | nil => rfl
  | cons word words ih =>
      rw [List.map_cons, ← List.singleton_append, fullTexts_append, ih, fullTexts_single,
        render_text]
      simp [← Text.full_append]

/-- A phrase of words is made of these words. -/
theorem render_words (words : List String) :
    render (run placeholder (.phrase (words.map Draft.text))) = pure (Text.joinFull " " words) := by
  rw [render_phrase, fullTexts_words]
  rfl

/-- Words and what follows them make a phrase. -/
theorem render_words_append {words : List String} {last : Draft} {text : Rendering String}
    (h : render (run placeholder last) = text) :
    render (run placeholder (.phrase (words.map Draft.text ++ [last]))) =
      (fun text => Text.joinFull " " (words ++ [text])) <$> text := by
  rw [render_phrase, fullTexts_append, fullTexts_words, fullTexts_single, h]
  simp only [pure_bind, bind_pure_comp, Functor.map_map, ← Text.full_append]
  rfl

/-- A list under a keyword adds its clause, if there are items that have a text. -/
theorem fullTexts_listClause (keyword : String) (ds : List Draft) :
    fullTexts placeholder (listClause keyword ds) =
      (fun texts => Text.full [Text.clause keyword (Text.joinFull ", " texts)]) <$>
        renderAll placeholder ds := by
  unfold listClause
  split
  · rename_i hempty
    rw [List.isEmpty_iff] at hempty
    subst hempty
    rfl
  · rw [fullTexts_single, render_clause, render_join, Functor.map_map, Functor.map_map]

end Draft

end SqlRender
