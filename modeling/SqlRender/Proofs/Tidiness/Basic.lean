import SqlRender.Expr.Condition
import SqlRender.Expr.Reference
import SqlRender.Proofs.Dialect.Tidy
import SqlRender.Proofs.Expr.Mute
import SqlRender.Proofs.Expr.Verbatim

/-!
# Tidy pieces

A piece is tidy if what a surrounding node may make of it has no stray spaces. Wordings, literals,
references and conditions that are made from tidy parts are tidy, as long as no text of their own
has a space in it.
-/

namespace SqlRender

variable {g : Grammar}

/-! ## Pieces -/

/-- Parts of a conflict clause without stray spaces. -/
structure ConflictParts.IsTidy (c : ConflictParts) : Prop where
  assignments : ∀ ds ∈ c.assignments, Draft.AllTidy ds
  filter : ∀ d ∈ c.filter, d.IsTidy

/-- What is written of a shape has no stray spaces. -/
def Shape.IsTidy : Shape → Prop
  | .verbatim text => Text.IsTidy text
  | .items parts => Draft.AllTidy parts
  | .identifier (.text name) => ' ' ∉ name.toList
  | .conflictAction parts => parts.IsTidy
  | _ => True

/-- A piece that has no stray spaces wherever it is put. -/
structure Piece.IsTidy (p : Piece) : Prop where
  draft : p.draft.IsTidy
  shape : p.shape.IsTidy

namespace Piece

variable {p : Piece} {ps : List Piece} {keyword : String}

theorem isTidy_unrenderable (typeName : String) : (unrenderable typeName).IsTidy :=
  .fail _

theorem IsTidy.part (h : p.IsTidy) : Draft.AllTidy p.part := by
  have hshape := h.shape
  unfold Piece.part
  split
  · exact .nil
  · rename_i heq
    rw [heq] at hshape
    exact .single (.text hshape)
  · exact .single h.draft

theorem IsTidy.clause (hk : Text.IsTidy keyword) (hk_ne : keyword ≠ "") (h : p.IsTidy) :
    Draft.AllTidy (p.clause keyword) :=
  .ite .nil (.single (.clause hk hk_ne h.draft))

theorem IsTidy.grouped (h : p.IsTidy) : p.grouped.IsTidy := by
  have hshape := h.shape
  unfold Piece.grouped
  split
  · rename_i heq
    rw [heq] at hshape
    exact .group hshape
  · exact .group (.single h.draft)

theorem allTidy_drafts (h : ∀ p ∈ ps, p.IsTidy) : Draft.AllTidy (drafts ps) :=
  List.forall_mem_map.2 fun p hp => (h p hp).draft

theorem allTidy_parts (h : ∀ p ∈ ps, p.IsTidy) : Draft.AllTidy (parts ps) := by
  intro d hd
  obtain ⟨p, hp, hpart⟩ := List.mem_flatMap.1 hd
  exact (h p hp).part d hpart

/-- Parentheses that are left out if there is nothing in them. -/
theorem allTidy_groupIfAny (h : ∀ p ∈ ps, p.IsTidy) :
    Draft.AllTidy (if ps.isEmpty then [] else [Draft.group (drafts ps)]) :=
  .ite .nil (.single (.group (allTidy_drafts h)))

theorem allTidy_ofValues (vs : List Value) : Draft.AllTidy (ofValues vs) := by
  induction vs with
  | nil => exact .nil
  | cons v vs ih =>
      refine .cons ?_ ih
      unfold ofValue
      split <;> exact isTidy_unrenderable _

theorem isTidy_ofValue {v : Value} (h : ∀ s, v = .text s → Text.IsTidy s) :
    (ofValue v).IsTidy := by
  unfold ofValue
  split
  · exact ⟨isTidy_unrenderable _, trivial⟩
  · exact ⟨isTidy_unrenderable _, h _ rfl⟩
  · exact ⟨isTidy_unrenderable _, allTidy_ofValues _⟩
  · exact ⟨isTidy_unrenderable _, allTidy_ofValues _⟩
  · exact ⟨isTidy_unrenderable _, trivial⟩

/-- The pieces of pairs are among the pieces that they are read from. -/
theorem forall_mem_pairs {P : Piece → Prop} {rows : List (List Piece)}
    {read : List (Piece × Piece)} (hpairs : pairs rows = .ok read) (h : ∀ p ∈ rows.flatten, P p) :
    ∀ pair ∈ read, P pair.1 ∧ P pair.2 := by
  rcases pairs_spec rows with ⟨members, hread, rfl⟩ | ⟨⟨fault, hfault⟩, -⟩
  · rw [hread] at hpairs
    cases hpairs
    intro pair hpair
    have hrow := List.mem_map_of_mem (f := fun p : Piece × Piece => [p.1, p.2]) hpair
    exact ⟨h _ (List.mem_flatten.2 ⟨_, hrow, by simp⟩), h _ (List.mem_flatten.2 ⟨_, hrow, by simp⟩)⟩
  · rw [hfault] at hpairs
    cases hpairs

end Piece

/-! ## Wordings and literals -/

namespace Wording

variable {w : Wording}

theorem isTidy_written (h : ∀ s, w = .text s → ' ' ∉ s.toList) : w.written.IsTidy := by
  cases w with
  | text s => exact .text (Text.isTidy_of_not_mem (h s rfl))
  | other o =>
      rw [written]
      split
      · exact .stray _
      · exact .empty

theorem isTidy_quoted {quote : String → String}
    (tidy : ∀ {s : String}, ' ' ∉ s.toList → Text.IsTidy (quote s))
    (h : ∀ s, w = .text s → ' ' ∉ s.toList) : (w.quoted quote).IsTidy := by
  unfold quoted
  split
  · exact .text (tidy (h _ rfl))
  · exact .fail _
  · exact .fail _
  · exact .fail _

end Wording

theorem Keyword.isTidy_text (k : Keyword) : Text.IsTidy k.text := by
  have listed : ∀ k ∈ all, Text.IsTidy k.text := by decide
  exact listed k k.mem_all

theorem LockingClause.isTidy_draft (tidy : g.Tidy) (l : LockingClause) : (l.draft g).IsTidy := by
  have known {words : Option String} (h : ∀ w ∈ words, Text.IsTidy w) :
      Text.IsTidy (words.getD "") := by
    cases words with
    | none => exact Text.isTidy_empty
    | some w => exact h w rfl
  cases l with
  | share =>
      exact .text (known fun w hw => tidy.spacing w (by simp [Grammar.words, Option.mem_def.1 hw]))
  | update =>
      exact .text (known fun w hw => tidy.spacing w (by simp [Grammar.words, Option.mem_def.1 hw]))

theorem Node.isTidy_keywordDraft (tidy : g.Tidy) (k : Keyword) : (keywordDraft g k).IsTidy := by
  unfold keywordDraft
  split
  · exact .warn _
  · exact LockingClause.isTidy_draft tidy _
  · exact .fail _
  · exact .text (Keyword.isTidy_text _)

namespace Draft

variable {p q r : Piece} {ps : List Piece}

/-! ## References -/

theorem isTidy_qualified (hp : p.IsTidy) (hq : q.IsTidy) : (qualified p q).IsTidy :=
  .seq ((AllTidy.ite .nil (.cons hp.draft (.word (by decide) .nil))).append (.single hq.draft))

theorem isTidy_excludedColumn (h : p.IsTidy) : (excludedColumn g p).IsTidy := by
  unfold excludedColumn
  split
  · exact .seq (.word (by decide) (.single h.draft))
  · exact .seq (.word (by decide) (.single (.group (.single h.draft))))
  · exact .empty

theorem allTidy_arrows (tidy : g.Tidy) {keys : List Wording}
    (h : ∀ s ∈ keys.filterMap Wording.text?, ' ' ∉ s.toList) :
    AllTidy (JsonAccess.arrows g keys) := by
  have quoted : ∀ key ∈ keys, (key.quoted g.quoteString).IsTidy := fun key hkey =>
    Wording.isTidy_quoted tidy.quoteString fun s hs =>
      h s (List.mem_filterMap.2 ⟨key, hkey, by rw [hs, Wording.text?]⟩)
  clear h
  induction keys with
  | nil => exact .nil
  | cons key keys ih =>
      rw [List.forall_mem_cons] at quoted
      cases keys with
      | nil => exact .word (by decide) (.single quoted.1)
      | cons next rest => exact .word (by decide) (.cons quoted.1 (ih quoted.2))

theorem isTidy_path (tidy : g.Tidy) {keys : List String} (h : ∀ s ∈ keys, ' ' ∉ s.toList) :
    (JsonAccess.path g keys).IsTidy := by
  refine .text (tidy.quoteString ?_)
  rw [String.toList_append, List.mem_append, not_or]
  exact ⟨by decide, Text.not_mem_intercalate (by decide) h⟩

theorem isTidy_subpath (tidy : g.Tidy) (hp : p.IsTidy) {keys : List Wording}
    (h : ∀ s ∈ keys.filterMap Wording.text?, ' ' ∉ s.toList) : (subpath g p keys).IsTidy := by
  have path {texts : List String} (htexts : Wording.texts 0 keys = .ok texts) :
      (JsonAccess.path g texts).IsTidy :=
    isTidy_path tidy (Wording.filterMap_text? htexts ▸ h)
  unfold subpath
  split
  · exact .fail _
  · split
    · rename_i access _
      cases access with
      | keyArrows =>
          exact .group (.single (.join (by decide) (.cons hp.draft (allTidy_arrows tidy h))))
      | extractCall =>
          rw [JsonAccess.draft]
          split
          · rename_i htexts
            exact .seq (.word (by decide)
              (.single (.group (.cons hp.draft (.single (path htexts))))))
          · exact .fail _
      | pathArrow =>
          rw [JsonAccess.draft]
          split
          · rename_i htexts
            exact .group (.single (.join (by decide)
              (.cons hp.draft (.word (by decide) (.single (path htexts))))))
          · exact .fail _
    · exact .empty

/-! ## Conditions -/

theorem isTidy_between (hp : p.IsTidy) (hq : q.IsTidy) (hr : r.IsTidy) :
    (between p q r).IsTidy :=
  .phrase ((hp.part.append (.word (by decide) hq.part)).append (.word (by decide) hr.part))

theorem isTidy_case {rows : List (List Piece)} (h : ∀ p ∈ rows.flatten, p.IsTidy) (hp : p.IsTidy)
    (hq : q.IsTidy) : (Draft.case rows p q).IsTidy := by
  unfold Draft.case
  split
  · exact .fail _
  · rename_i pairs hpairs
    have whens : AllTidy
        (pairs.flatMap fun p => .text "WHEN" :: p.1.part ++ .text "THEN" :: p.2.part) := by
      intro d hd
      obtain ⟨pair, hpair, hmem⟩ := List.mem_flatMap.1 hd
      obtain ⟨hwhen, hthen⟩ := Piece.forall_mem_pairs hpairs h pair hpair
      have hboth : AllTidy (.text "WHEN" :: pair.1.part ++ .text "THEN" :: pair.2.part) :=
        (AllTidy.word (by decide) hwhen.part).append (.word (by decide) hthen.part)
      exact hboth d hmem
    exact .phrase ((((AllTidy.word (by decide) hp.part).append whens).append
      (.ite .nil (.word (by decide) hq.part))).append (.word (by decide) .nil))

end Draft

end SqlRender
