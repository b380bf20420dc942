import SqlRender.Proofs.Likeness.Basic

/-!
# Two runs

Drafts whose runs agree: from states that agree they end in states that agree, with results that
agree, or fail alike. What it takes for texts to agree is left open. It has to go with putting texts
together, and with what a rendering asks of a text that was put aside, which is whether it is empty.
-/

namespace SqlRender

/-- What it takes for two renderings to agree on texts, values and faults. -/
structure Agreement where
  text : String → String → Prop
  value : Value → Value → Prop
  fault : Fault → Fault → Prop
  plain {s : String} : Text.isPlain s = true → text s s
  append {s s' t t' : String} : text s t → text s' t' → text (s ++ s') (t ++ t')
  eq_empty {s t : String} : text s t → (s = "" ↔ t = "")
  fault_refl (f : Fault) : fault f f

namespace Agreement

variable (A : Agreement)

/-- Serializers that agree chunk by chunk and value by value, and have the same warnings. -/
structure serializer (s t : Serializer) : Prop where
  chunks : List.Forall₂ A.text s.written.chunks t.written.chunks
  stray : s.written.stray = t.written.stray
  binds : List.Forall₂ A.value s.binds t.binds
  warnings : s.warnings = t.warnings

/-- Results that agree: both renderings end well, or both fail. -/
inductive result {α : Type} (R : α → α → Prop) :
    EStateM.Result Fault Serializer α → EStateM.Result Fault Serializer α → Prop where
  | ok {a b : α} {s t : Serializer} : R a b → A.serializer s t → result R (.ok a s) (.ok b t)
  | error {f f' : Fault} {s t : Serializer} : A.fault f f' → A.serializer s t →
    result R (.error f s) (.error f' t)

/-- Renderings that agree from states that agree. -/
def rendering {α : Type} (R : α → α → Prop) (m n : Rendering α) : Prop :=
  ∀ s t, A.serializer s t → A.result R (m s) (n t)

/-- Renderings that agree and give nothing. -/
abbrev running (m n : Rendering Unit) : Prop :=
  A.rendering (fun _ _ => True) m n

theorem empty : A.serializer {} {} :=
  ⟨.nil, rfl, .nil, rfl⟩

variable {A}

section Actions

variable {α β : Type} {R : α → α → Prop} {S : β → β → Prop}

theorem rendering_pure {a b : α} (h : R a b) : A.rendering R (pure a) (pure b) :=
  fun _ _ hst => .ok h hst

theorem rendering_throw {f f' : Fault} (h : A.fault f f') :
    A.rendering R (throw f) (throw f') :=
  fun _ _ hst => .error h hst

theorem rendering_bind {m n : Rendering α} {k l : α → Rendering β} (h : A.rendering R m n)
    (hk : ∀ a b, R a b → A.rendering S (k a) (l b)) : A.rendering S (m >>= k) (n >>= l) := by
  intro s t hst
  show A.result S (EStateM.bind m k s) (EStateM.bind n l t)
  unfold EStateM.bind
  have hresult := h s t hst
  generalize m s = x at hresult ⊢
  generalize n t = y at hresult ⊢
  cases hresult with
  | ok hab hst' => exact hk _ _ hab _ _ hst'
  | error hf hst' => exact .error hf hst'

theorem isEmpty_eq {s t : String} (h : A.text s t) : s.isEmpty = t.isEmpty := by
  rw [Bool.eq_iff_iff, String.isEmpty_iff, String.isEmpty_iff]
  exact A.eq_empty h

theorem write {s t : String} (h : A.text s t) :
    A.running (Rendering.write s) (Rendering.write t) := by
  intro u v huv
  unfold Rendering.write
  rw [isEmpty_eq h]
  refine .ok trivial ?_
  split
  · exact huv
  · exact ⟨List.rel_append huv.chunks (.cons h .nil), huv.stray, huv.binds, huv.warnings⟩

theorem writeStray (typeName : String) :
    A.running (Rendering.writeStray typeName) (Rendering.writeStray typeName) := by
  intro s t hst
  refine .ok trivial ⟨hst.chunks, ?_, hst.binds, hst.warnings⟩
  simp only [hst.stray, hst.chunks.length_eq]

theorem writeBind {placeholder : Int → String}
    (self : ∀ n : Nat, A.text (placeholder (n + 1)) (placeholder (n + 1))) {v w : Value}
    (h : A.value v w) :
    A.running (Rendering.writeBind placeholder v) (Rendering.writeBind placeholder w) := by
  intro s t hst
  unfold Rendering.writeBind
  -- a placeholder has the position of its value, and both sides have bound equally many
  rw [hst.binds.length_eq]
  exact write (self _) _ _
    ⟨hst.chunks, hst.stray, List.rel_append hst.binds (.cons h .nil), hst.warnings⟩

theorem warn (w : Warning) : A.running (Rendering.warn w) (Rendering.warn w) := by
  intro s t hst
  exact .ok trivial ⟨hst.chunks, hst.stray, hst.binds, congrArg (· ++ [w]) hst.warnings⟩

theorem separator {s t : Separator} (h : Separator.Alike A.text s t) :
    A.running s.write t.write := by
  cases h with
  | text htext => exact write htext
  | stray typeName => exact writeStray typeName

theorem text_join {cs ds : List String} (h : List.Forall₂ A.text cs ds) :
    A.text (String.join cs) (String.join ds) := by
  induction h with
  | nil => exact A.plain (by decide)
  | cons hcd _ ih =>
      rw [String.join_cons, String.join_cons]
      exact A.append hcd ih

/-- What is put aside by runs that agree agrees too, and leaves states that agree. -/
theorem render {m n : Rendering Unit} (h : A.running m n) :
    A.rendering A.text (Rendering.render m) (Rendering.render n) := by
  refine rendering_bind (R := fun w w' => List.Forall₂ A.text w.chunks w'.chunks ∧
    w.stray = w'.stray) ?_ ?_
  · intro s t hst
    unfold Rendering.capture
    -- the text before is put away on both sides, so the bodies start with nothing written
    have hresult := h { s with written := {} } { t with written := {} }
      ⟨.nil, rfl, hst.binds, hst.warnings⟩
    generalize m { s with written := {} } = x at hresult ⊢
    generalize n { t with written := {} } = y at hresult ⊢
    cases hresult with
    | ok _ huv => exact .ok ⟨huv.chunks, huv.stray⟩ ⟨hst.chunks, hst.stray, huv.binds, huv.warnings⟩
    | error hf huv => exact .error hf ⟨hst.chunks, hst.stray, huv.binds, huv.warnings⟩
  · rintro ⟨chunks, stray⟩ ⟨chunks', stray'⟩ ⟨hchunks, hstray⟩
    simp only at hchunks hstray
    subst hstray
    cases stray with
    | none => exact rendering_pure (text_join hchunks)
    | some s => exact rendering_throw (A.fault_refl _)

end Actions

section Drafts

variable {placeholder : Int → String}

theorem runAll {ds es : List Draft}
    (h : List.Forall₂ (fun d e => A.running (d.run placeholder) (e.run placeholder)) ds es) :
    A.running (Draft.runAll placeholder ds) (Draft.runAll placeholder es) := by
  induction h with
  | nil => exact rendering_pure trivial
  | cons hd _ ih => exact rendering_bind hd fun _ _ _ => ih

theorem runJoined {ds es : List Draft} {m n : Rendering Unit} (hseparator : A.running m n)
    (h : List.Forall₂ (fun d e => A.running (d.run placeholder) (e.run placeholder)) ds es)
    (first : Bool) :
    A.running (Draft.runJoined placeholder m first ds)
      (Draft.runJoined placeholder n first es) := by
  induction h generalizing first with
  | nil => exact rendering_pure trivial
  | cons hd _ ih =>
      refine rendering_bind (render hd) fun s t hst => ?_
      rw [isEmpty_eq hst]
      -- both items are left out, or neither is
      split
      · exact ih first
      · have rest := rendering_bind (write hst) fun _ _ _ => ih false
        cases first with
        | true => exact rest
        | false => exact rendering_bind hseparator fun _ _ _ => rest

theorem clause {k l : String} (hk : A.text k l) {d e : Draft}
    (h : A.running (d.run placeholder) (e.run placeholder)) :
    A.running ((Draft.clause k d).run placeholder) ((Draft.clause l e).run placeholder) := by
  refine rendering_bind (render h) fun s t hst => ?_
  rw [isEmpty_eq hst]
  split
  · exact rendering_pure trivial
  · exact write (A.append (A.append hk (A.plain (by decide))) hst)

end Drafts

variable (A) in
/-- Drafts whose runs agree are alike. -/
def likeness (placeholder : Int → String) : Likeness where
  text := A.text
  draft d e := A.running (d.run placeholder) (e.run placeholder)
  plain := A.plain
  of_text := write
  of_warn := warn
  of_fail f := rendering_throw (A.fault_refl f)
  of_seq := runAll
  of_join hs h := runJoined (separator hs) h true
  of_clause hk h := clause hk h

/-- Something in place of a text that is written as it is: it spoils the text on both sides, or is
left out on both. -/
theorem writtenOther (o : Outline) :
    A.running ((Wording.other o).written.run placeholder)
      ((Wording.other o).written.run placeholder) := by
  unfold Wording.written
  simp only
  split
  · exact writeStray _
  · exact runAll .nil

end Agreement

end SqlRender
