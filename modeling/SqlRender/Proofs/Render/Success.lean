import SqlRender.Proofs.Database.Report
import SqlRender.Proofs.Render.Mute

/-!
# Renderings that succeed

Whether a rendering succeeds is told from its draft: a draft is sound if nothing in it fails and
nothing that is no text comes to be written. `Draft.run_of_isSound` carries a sound draft out, and
`Draft.isSound_of_run` says that no other draft gets that far. Together with the segments this is
all that there is to know of a query that a database gives (`Database.outcome_eq_ok_iff`): when
there is one, its text, its values and what was warned of.

The one place where soundness has to look at what is written is a separator that is no text. It does
no harm while there are not two items to put it between.
-/

namespace SqlRender

/-- Whether a separator is a text. -/
def Separator.isText : Separator → Bool
  | .text _ => true
  | .stray _ => false

namespace Draft

/-! ## Sound drafts -/

/-- Whether a separator is written between items, the first of which may have some before it. -/
def isSeparated (first : Bool) : List Draft → Bool
  | [] => false
  | d :: ds => if d.isBlank then isSeparated first ds else !first || isSeparated false ds

mutual

/-- Whether nothing in a draft fails or spoils the text. -/
def isSound : Draft → Bool
  | .text _ | .bind _ | .warn _ => true
  | .stray _ | .fail _ => false
  | .seq parts => allSound parts
  | .join separator items => allSound items && (separator.isText || !isSeparated true items)
  | .clause _ body => isSound body

/-- Whether several drafts are sound. -/
def allSound : List Draft → Bool
  | [] => true
  | d :: ds => isSound d && allSound ds

end

mutual

/-- What a draft warns of, if it is sound. -/
def warnings : Draft → List Warning
  | .text _ | .bind _ | .stray _ | .fail _ => []
  | .warn w => [w]
  | .seq parts => allWarnings parts
  | .join _ items => allWarnings items
  | .clause _ body => warnings body

/-- What several drafts warn of in turn. -/
def allWarnings : List Draft → List Warning
  | [] => []
  | d :: ds => warnings d ++ allWarnings ds

end

theorem allSound_eq (ds : List Draft) : allSound ds = ds.all isSound := by
  induction ds with
  | nil => rfl
  | cons d ds ih => rw [allSound, ih, List.all_cons]

theorem allWarnings_eq (ds : List Draft) : allWarnings ds = ds.flatMap warnings := by
  induction ds with
  | nil => rfl
  | cons d ds ih => rw [allWarnings, ih, List.flatMap_cons]

theorem isSound_phrase (ds : List Draft) : isSound (.phrase ds) = ds.all isSound := by
  rw [phrase, isSound, allSound_eq]
  exact Bool.and_true _

theorem warnings_phrase (ds : List Draft) : warnings (.phrase ds) = ds.flatMap warnings := by
  rw [phrase, warnings, allWarnings_eq]

/-! ## Sound drafts are carried out -/

section Runs

open Rendering

variable {placeholder : Int → String}

/-- An item with text goes after a separator, unless it is the first. -/
theorem runJoined_cons (separator : Rendering Unit) (first : Bool) (d : Draft) (ds : List Draft) :
    runJoined placeholder separator first (d :: ds) = (do
      let text ← render (d.run placeholder)
      if text.isEmpty then runJoined placeholder separator first ds
      else
        (if first then pure () else separator) >>= fun _ =>
          write text >>= fun _ => runJoined placeholder separator false ds) := by
  rw [runJoined]
  congr 1
  funext text
  cases first <;> rfl

/-- A text is written by any serializer, and leaves it as sound as it was. -/
theorem exists_write (text : String) (s : Serializer) :
    ∃ t, write text s = .ok () t ∧ t.written.stray = s.written.stray ∧
      t.warnings = s.warnings := by
  refine ⟨_, rfl, ?_, ?_⟩ <;> split <;> rfl

/-- If a draft is carried out then its text is given. -/
theorem exists_render (visible : ∀ n : Nat, placeholder (n + 1) ≠ "") {d : Draft}
    (body : ∀ s : Serializer, s.written.stray = none → ∃ t, d.run placeholder s = .ok () t ∧
      t.written.stray = none ∧ t.warnings = s.warnings ++ d.warnings)
    (s : Serializer) :
    ∃ text t, render (d.run placeholder) s = .ok text t ∧ text.isEmpty = d.isBlank ∧
      t.written = s.written ∧ t.warnings = s.warnings ++ d.warnings := by
  obtain ⟨u, hrun, hstray, hwarnings⟩ := body { s with written := {} } rfl
  have hrender : render (d.run placeholder) s =
      .ok (String.join u.written.chunks) { u with written := s.written } :=
    render_eq_ok.2 ⟨u, hrun, Written.text_eq_ok.2 ⟨hstray, rfl⟩, rfl⟩
  obtain ⟨htext, -, -⟩ := render_spec (run_appends visible d) hrender
  exact ⟨_, _, hrender, aside_isEmpty visible htext, rfl, hwarnings⟩

mutual

/-- A sound draft is carried out to the end, with its warnings. -/
theorem run_of_isSound (visible : ∀ n : Nat, placeholder (n + 1) ≠ "") (d : Draft)
    (sound : d.isSound = true) (s : Serializer) (hs : s.written.stray = none) :
    ∃ t, d.run placeholder s = .ok () t ∧ t.written.stray = none ∧
      t.warnings = s.warnings ++ d.warnings := by
  cases d with
  | text text =>
      obtain ⟨t, hwrite, hstray, hwarnings⟩ := exists_write text s
      exact ⟨t, hwrite, hstray.trans hs, hwarnings.trans (List.append_nil _).symm⟩
  | stray typeName => cases sound
  | bind value =>
      obtain ⟨t, hwrite, hstray, hwarnings⟩ := exists_write
        (placeholder (s.binds.length + 1)) { s with binds := s.binds ++ [value] }
      exact ⟨t, hwrite, hstray.trans hs, hwarnings.trans (List.append_nil _).symm⟩
  | warn warning => exact ⟨_, rfl, hs, rfl⟩
  | fail fault => cases sound
  | seq parts => exact runAll_of_allSound visible parts sound s hs
  | join separator items =>
      rw [isSound, Bool.and_eq_true, Bool.or_eq_true, Bool.not_eq_true'] at sound
      exact runJoined_of_allSound visible separator true items sound.1 sound.2 s hs
  | clause keyword body =>
      obtain ⟨text, u, hrender, -, hwritten, hwarnings⟩ :=
        exists_render visible (run_of_isSound visible body sound) s
      have hu : u.written.stray = none := by rw [hwritten, hs]
      rw [run, warnings]
      by_cases hempty : text.isEmpty = true
      · exact ⟨u, bind_eq_ok.2 ⟨text, u, hrender, by rw [if_pos hempty]; rfl⟩, hu, hwarnings⟩
      · obtain ⟨t, hwrite, hstray, hsame⟩ := exists_write (keyword ++ " " ++ text) u
        exact ⟨t, bind_eq_ok.2 ⟨text, u, hrender, by rw [if_neg hempty]; exact hwrite⟩,
          hstray.trans hu, hsame.trans hwarnings⟩

theorem runAll_of_allSound (visible : ∀ n : Nat, placeholder (n + 1) ≠ "") (ds : List Draft)
    (sound : allSound ds = true) (s : Serializer) (hs : s.written.stray = none) :
    ∃ t, runAll placeholder ds s = .ok () t ∧ t.written.stray = none ∧
      t.warnings = s.warnings ++ allWarnings ds := by
  cases ds with
  | nil => exact ⟨s, rfl, hs, (List.append_nil _).symm⟩
  | cons d ds =>
      rw [allSound, Bool.and_eq_true] at sound
      obtain ⟨u, hfirst, hu, hwarnings⟩ := run_of_isSound visible d sound.1 s hs
      obtain ⟨t, hrest, ht, hmore⟩ := runAll_of_allSound visible ds sound.2 u hu
      refine ⟨t, bind_eq_ok.2 ⟨(), u, hfirst, hrest⟩, ht, ?_⟩
      rw [hmore, hwarnings, allWarnings, List.append_assoc]

theorem runJoined_of_allSound (visible : ∀ n : Nat, placeholder (n + 1) ≠ "")
    (separator : Separator) (first : Bool) (ds : List Draft) (sound : allSound ds = true)
    (apart : separator.isText = true ∨ isSeparated first ds = false) (s : Serializer)
    (hs : s.written.stray = none) :
    ∃ t, runJoined placeholder separator.write first ds s = .ok () t ∧ t.written.stray = none ∧
      t.warnings = s.warnings ++ allWarnings ds := by
  cases ds with
  | nil => exact ⟨s, rfl, hs, (List.append_nil _).symm⟩
  | cons d ds =>
      rw [allSound, Bool.and_eq_true] at sound
      obtain ⟨text, u, hrender, hblank, hwritten, hwarnings⟩ :=
        exists_render visible (run_of_isSound visible d sound.1) s
      have hu : u.written.stray = none := by rw [hwritten, hs]
      rw [isSeparated, ← hblank] at apart
      rw [runJoined_cons, allWarnings, ← List.append_assoc, ← hwarnings]
      by_cases hempty : text.isEmpty = true
      · rw [if_pos hempty] at apart
        obtain ⟨t, hrest, ht, hmore⟩ :=
          runJoined_of_allSound visible separator first ds sound.2 apart u hu
        exact ⟨t, bind_eq_ok.2 ⟨text, u, hrender, by rw [if_pos hempty]; exact hrest⟩, ht, hmore⟩
      · rw [if_neg hempty, Bool.or_eq_false_iff] at apart
        obtain ⟨v, hbefore, hv, hnone⟩ : ∃ v,
            (if first then pure () else separator.write : Rendering Unit) u = .ok () v ∧
              v.written.stray = none ∧ v.warnings = u.warnings := by
          cases first with
          | true => exact ⟨u, rfl, hu, rfl⟩
          | false =>
              cases separator with
              | text separator =>
                  obtain ⟨v, hwrite, hstray, hsame⟩ := exists_write separator u
                  exact ⟨v, hwrite, hstray.trans hu, hsame⟩
              | stray typeName =>
                  -- a separator is called for, and this one is no text
                  rcases apart with h | ⟨h, -⟩ <;> cases h
        obtain ⟨w, hwrite, hw, hsame⟩ := exists_write text v
        obtain ⟨t, hrest, ht, hmore⟩ := runJoined_of_allSound visible separator false ds sound.2
          (apart.imp_right And.right) w (hw.trans hv)
        refine ⟨t, bind_eq_ok.2 ⟨text, u, hrender, ?_⟩, ht, ?_⟩
        · rw [if_neg hempty]
          exact bind_eq_ok.2 ⟨(), v, hbefore, bind_eq_ok.2 ⟨(), w, hwrite, hrest⟩⟩
        · rw [hmore, hsame, hnone]

end

/-! ## Nothing else is -/

mutual

/-- A draft that is carried out to the end with nothing but text is sound. -/
theorem isSound_of_run (visible : ∀ n : Nat, placeholder (n + 1) ≠ "") (d : Draft)
    (s t : Serializer) (h : d.run placeholder s = .ok () t) (text : t.written.stray = none) :
    d.isSound = true := by
  cases d with
  | text text => rfl
  | stray typeName =>
      cases h
      simp at text
  | bind value => rfl
  | warn warning => rfl
  | fail fault => exact absurd h throw_ne_ok
  | seq parts => exact allSound_of_runAll visible parts s t h text
  | join separator items =>
      obtain ⟨sound, apart⟩ := allSound_of_runJoined visible separator true items s t h text
      rw [isSound, Bool.and_eq_true, Bool.or_eq_true, Bool.not_eq_true']
      exact ⟨sound, apart⟩
  | clause keyword body =>
      rw [run, bind_eq_ok] at h
      obtain ⟨shown, u, hrender, -⟩ := h
      obtain ⟨v, hbody, htext, -⟩ := render_eq_ok.1 hrender
      exact isSound_of_run visible body _ v hbody (Written.text_eq_ok.1 htext).1

theorem allSound_of_runAll (visible : ∀ n : Nat, placeholder (n + 1) ≠ "") (ds : List Draft)
    (s t : Serializer) (h : runAll placeholder ds s = .ok () t) (text : t.written.stray = none) :
    allSound ds = true := by
  cases ds with
  | nil => rfl
  | cons d ds =>
      rw [runAll, bind_eq_ok] at h
      obtain ⟨⟨⟩, u, hfirst, hrest⟩ := h
      have hu := (runAll_isLocal placeholder ds).stray_eq_none hrest text
      rw [allSound, Bool.and_eq_true]
      exact ⟨isSound_of_run visible d s u hfirst hu, allSound_of_runAll visible ds u t hrest text⟩

theorem allSound_of_runJoined (visible : ∀ n : Nat, placeholder (n + 1) ≠ "")
    (separator : Separator) (first : Bool) (ds : List Draft) (s t : Serializer)
    (h : runJoined placeholder separator.write first ds s = .ok () t)
    (text : t.written.stray = none) :
    allSound ds = true ∧ (separator.isText = true ∨ isSeparated first ds = false) := by
  cases ds with
  | nil => exact ⟨rfl, .inr rfl⟩
  | cons d ds =>
      rw [runJoined_cons, bind_eq_ok] at h
      obtain ⟨shown, u, hrender, hrest⟩ := h
      obtain ⟨v, hbody, hshown, -⟩ := render_eq_ok.1 hrender
      have hitem := isSound_of_run visible d _ v hbody (Written.text_eq_ok.1 hshown).1
      obtain ⟨htext, -, -⟩ := render_spec (run_appends visible d) hrender
      rw [allSound, Bool.and_eq_true, isSeparated, isBlank, ← aside_isEmpty visible htext]
      by_cases hempty : shown.isEmpty = true
      · rw [if_pos hempty] at hrest ⊢
        obtain ⟨sound, apart⟩ := allSound_of_runJoined visible separator first ds u t hrest text
        exact ⟨⟨hitem, sound⟩, apart⟩
      · rw [if_neg hempty] at hrest ⊢
        obtain ⟨⟨⟩, w, hbefore, hwritten⟩ := bind_eq_ok.1 hrest
        obtain ⟨⟨⟩, x, hwrite, hlater⟩ := bind_eq_ok.1 hwritten
        obtain ⟨sound, apart⟩ := allSound_of_runJoined visible separator false ds x t hlater text
        refine ⟨⟨hitem, sound⟩, ?_⟩
        have hx : x.written.stray = none :=
          (runJoined_isLocal placeholder (.separator separator) false ds).stray_eq_none hlater text
        have hw : w.written.stray = none := (IsLocal.write shown).stray_eq_none hwrite hx
        cases separator with
        | text separator => exact .inl rfl
        | stray typeName =>
            cases first with
            | true => exact .inr (apart.resolve_left nofun)
            | false =>
                cases hbefore
                simp at hw

end

end Runs

end Draft

/-- **Queries.** A database gives a query exactly for a tree with a sound draft, and the query has
the text and the values of its segments. -/
theorem Database.outcome_eq_ok_iff {db : Database} {elapsed : Float} {e : Expr} {q : RenderedQuery}
    (visible : ∀ n : Nat, db.dialect.placeholder (n + 1) ≠ "") :
    (db.render elapsed e).outcome = .ok q ↔
      (e.draft db.dialect.toGrammar).isSound = true ∧
        q.sql = Segment.write db.dialect.placeholder 0 (e.segments db.dialect.toGrammar) ∧
        q.binds = Segment.values (e.segments db.dialect.toGrammar) := by
  constructor
  · intro h
    obtain ⟨s, hrun, htext, -⟩ := Database.outcome_eq_ok.1 h
    exact ⟨Draft.isSound_of_run visible _ {} s hrun (Written.text_eq_ok.1 htext).1,
      Database.outcome_segments visible h⟩
  · rintro ⟨sound, hsql, hbinds⟩
    obtain ⟨s, hrun, hstray, -⟩ := Draft.run_of_isSound visible _ sound {} rfl
    have hgiven : (db.render elapsed e).outcome = .ok ⟨String.join s.written.chunks, s.binds⟩ :=
      Database.outcome_eq_ok.2 ⟨s, hrun, Written.text_eq_ok.2 ⟨hstray, rfl⟩, rfl⟩
    obtain ⟨hsql', hbinds'⟩ := Database.outcome_segments visible hgiven
    rw [hgiven]
    cases q
    exact congrArg Except.ok (congrArg₂ RenderedQuery.mk (hsql'.trans hsql.symm)
      (hbinds'.trans hbinds.symm))

/-- A database gives a query for the trees with a sound draft. -/
theorem Database.exists_outcome_iff {db : Database} {elapsed : Float} {e : Expr}
    (visible : ∀ n : Nat, db.dialect.placeholder (n + 1) ≠ "") :
    (∃ q, (db.render elapsed e).outcome = .ok q) ↔
      (e.draft db.dialect.toGrammar).isSound = true := by
  constructor
  · rintro ⟨q, h⟩
    exact ((outcome_eq_ok_iff visible).1 h).1
  · intro sound
    exact ⟨⟨Segment.write db.dialect.placeholder 0 (e.segments db.dialect.toGrammar),
      Segment.values (e.segments db.dialect.toGrammar)⟩,
      (outcome_eq_ok_iff visible).2 ⟨sound, rfl, rfl⟩⟩

/-- A database that gives a query reports the warnings of its draft. -/
theorem Database.warnings_eq {db : Database} {elapsed : Float} {e : Expr}
    (visible : ∀ n : Nat, db.dialect.placeholder (n + 1) ≠ "")
    (sound : (e.draft db.dialect.toGrammar).isSound = true) :
    (db.render elapsed e).warnings = (e.draft db.dialect.toGrammar).warnings := by
  obtain ⟨s, hrun, -, hwarnings⟩ := Draft.run_of_isSound visible _ sound {} rfl
  have hending := congrArg Prod.snd (db.render_ending elapsed e)
  have hrender : e.render db.dialect {} = .ok () s := hrun
  rw [hrender] at hending
  exact hending.trans (hwarnings.trans (List.nil_append _))

end SqlRender
