import SqlRender.Proofs.Likeness.Keeping

/-!
# Drafts that run alike

A draft reruns another if, provided that nothing in that other warns or fails, nothing in it does
either and both run alike, whatever the placeholders are. This is a likeness. So a warning that is
there in one of two trees and not in the other has to come from a node at which the trees are not
drafted alike, and while there is no warning it is enough to look at such nodes one by one.

A part that leaves no trace may be put into a phrase or left out of it.
-/

namespace SqlRender

open Rendering

namespace Draft

variable {placeholder : Int → String}

/-! ## Parts that leave no trace -/

/-- A render of what leaves no trace gives no text. -/
theorem render_of_trace {d : Draft}
    (h : ∀ s, d.run placeholder s = .ok () s) (s : Serializer) :
    render (d.run placeholder) s = .ok "" s :=
  render_eq_ok.2 ⟨{ s with written := {} }, h _, rfl, rfl⟩

mutual

/-- A mute draft leaves no trace. -/
theorem run_of_isMute (d : Draft) (h : d.isMute = true) (s : Serializer) :
    d.run placeholder s = .ok () s := by
  cases d with
  | text text =>
      rw [isMute_text, decide_eq_true_eq] at h
      subst h
      exact write_eq_ok.2 rfl
  | seq parts =>
      rw [isMute_seq] at h
      exact runAll_of_isMute parts h s
  | join separator items =>
      rw [isMute_join] at h
      exact runJoined_of_isMute separator.write true items h s
  | clause keyword body =>
      rw [isMute_clause] at h
      rw [run, bind_eq_ok]
      exact ⟨"", s, render_of_trace (run_of_isMute body h) s, rfl⟩
  | bind value => simp at h
  | stray typeName => simp at h
  | warn warning => simp at h
  | fail fault => simp at h

theorem runAll_of_isMute (ds : List Draft) (h : ds.all isMute = true) (s : Serializer) :
    runAll placeholder ds s = .ok () s := by
  cases ds with
  | nil => rfl
  | cons d ds =>
      rw [List.all_cons, Bool.and_eq_true] at h
      rw [runAll, bind_eq_ok]
      exact ⟨(), s, run_of_isMute d h.1 s, runAll_of_isMute ds h.2 s⟩

theorem runJoined_of_isMute (separator : Rendering Unit) (first : Bool) (ds : List Draft)
    (h : ds.all isMute = true) (s : Serializer) :
    runJoined placeholder separator first ds s = .ok () s := by
  cases ds with
  | nil => rfl
  | cons d ds =>
      rw [List.all_cons, Bool.and_eq_true] at h
      rw [runJoined, bind_eq_ok]
      exact ⟨"", s, render_of_trace (run_of_isMute d h.1) s,
        runJoined_of_isMute separator first ds h.2 s⟩

end

/-- Mute parts at the end of a phrase make no difference to its run. -/
theorem runJoined_append_mute (separator : Rendering Unit) (first : Bool) (ds : List Draft)
    {es : List Draft} (h : es.all isMute = true) :
    runJoined placeholder separator first (ds ++ es) =
      runJoined placeholder separator first ds := by
  induction ds generalizing first with
  | nil =>
      funext s
      exact runJoined_of_isMute separator first es h s
  | cons d ds ih =>
      rw [List.cons_append, runJoined, runJoined]
      simp only [ih]

/-! ## Running alike -/

/-- Whether the second draft is silent if the first is, and then runs like it. -/
def Reruns (d e : Draft) : Prop :=
  d.isSilent = true → e.isSilent = true ∧ ∀ placeholder, e.run placeholder = d.run placeholder

namespace Reruns

theorem refl (d : Draft) : Reruns d d :=
  fun silent => ⟨silent, fun _ => rfl⟩

theorem trans {d e f : Draft} (hde : Reruns d e) (hef : Reruns e f) : Reruns d f := by
  intro silent
  obtain ⟨hsilent, hrun⟩ := hde silent
  obtain ⟨hsilent', hrun'⟩ := hef hsilent
  exact ⟨hsilent', fun placeholder => (hrun' placeholder).trans (hrun placeholder)⟩

/-- What warns or fails need not be run again. -/
theorem of_not_silent {d : Draft} (h : d.isSilent = false) (e : Draft) : Reruns d e := by
  intro silent
  rw [h] at silent
  cases silent

/-- A phrase with mute parts at its end. -/
theorem phrase_append (ds : List Draft) {es : List Draft} (h : es.all isMute = true) :
    Reruns (.phrase ds) (.phrase (ds ++ es)) := by
  intro silent
  have hes : es.all isSilent = true := by
    rw [all_isMute, Bool.and_eq_true] at h
    exact h.1
  refine ⟨?_, fun placeholder => runJoined_append_mute _ true ds h⟩
  rw [phrase, isSilent, allSilent_eq] at silent ⊢
  rw [List.all_append, silent, hes]
  rfl

theorem all {ds es : List Draft} (h : List.Forall₂ Reruns ds es) (silent : allSilent ds = true) :
    allSilent es = true ∧
      List.Forall₂ (fun d e => ∀ placeholder, e.run placeholder = d.run placeholder) ds es := by
  induction h with
  | nil => exact ⟨rfl, .nil⟩
  | cons hd _ ih =>
      rw [allSilent, Bool.and_eq_true] at silent
      obtain ⟨hsilent, hrun⟩ := hd silent.1
      obtain ⟨hrest, hruns⟩ := ih silent.2
      exact ⟨by rw [allSilent, hsilent, hrest]; rfl, .cons hrun hruns⟩

end Reruns

theorem runAll_congr {ds es : List Draft}
    (h : List.Forall₂ (fun d e => ∀ placeholder, e.run placeholder = d.run placeholder) ds es) :
    runAll placeholder es = runAll placeholder ds := by
  induction h with
  | nil => rfl
  | cons hd _ ih => rw [runAll, runAll, hd, ih]

theorem runJoined_congr (separator : Rendering Unit) (first : Bool) {ds es : List Draft}
    (h : List.Forall₂ (fun d e => ∀ placeholder, e.run placeholder = d.run placeholder) ds es) :
    runJoined placeholder separator first es = runJoined placeholder separator first ds := by
  induction h generalizing first with
  | nil => rfl
  | cons hd _ ih =>
      rw [runJoined, runJoined, hd]
      simp only [ih]

end Draft

/-- Drafts of which the second runs like the first while nothing in that warns or fails. -/
def Likeness.quiet : Likeness where
  text := Eq
  draft := Draft.Reruns
  plain _ := rfl
  of_text h := h ▸ .refl _
  of_warn w := .refl (.warn w)
  of_fail f := .refl (.fail f)
  of_seq h := by
    intro silent
    obtain ⟨hsilent, hrun⟩ := Draft.Reruns.all h silent
    exact ⟨hsilent, fun placeholder => Draft.runAll_congr hrun⟩
  of_join := by
    intro s t ds es hseparator h silent
    have hst : s = t := by
      cases hseparator with
      | text htext => rw [htext]
      | stray typeName => rfl
    subst hst
    obtain ⟨hsilent, hrun⟩ := Draft.Reruns.all h silent
    exact ⟨hsilent, fun placeholder => Draft.runJoined_congr _ true hrun⟩
  of_clause := by
    intro s t d e hst h silent
    subst hst
    obtain ⟨hsilent, hrun⟩ := h silent
    refine ⟨hsilent, fun placeholder => ?_⟩
    rw [Draft.run, Draft.run, hrun]

namespace Likeness

/-- The words of a dialect are the same, whatever they are. -/
theorem quiet_fits (g : Grammar) : quiet.fits g where
  primaryKey := .refl _
  typeName _ := rfl
  modifyVerb := rfl
  typeKeyword _ := rfl

end Likeness

end SqlRender
