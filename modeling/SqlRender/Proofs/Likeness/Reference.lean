import SqlRender.Expr.Condition
import SqlRender.Expr.Reference
import SqlRender.Proofs.Likeness.Basic

/-!
# References and conditions of a kind

Columns, tables, paths into JSON values, ranges and cases respect every likeness.
-/

namespace SqlRender

namespace Likeness

variable {L : Likeness} {g : Grammar}

section References

variable {p p' q q' : Piece}

theorem qualified (hp : L.piece g p p') (hq : L.piece g q q') :
    L.draft (.qualified p q) (.qualified p' q') := by
  refine L.of_seq (drafts.append ?_ (drafts_single hq.draft))
  rw [hp.isAbsent_eq]
  split
  · exact .nil
  · exact .cons hp.draft (drafts.word (by decide) .nil)

theorem labelled (hp : L.piece g p p') (hq : L.piece g q q') :
    L.draft (.labelled p q) (.labelled p' q') :=
  L.of_seq (.cons hp.draft (drafts.word (by decide) (drafts_single hq.draft)))

theorem excludedColumn (h : L.piece g p p') :
    L.draft (.excludedColumn g p) (.excludedColumn g p') := by
  unfold Draft.excludedColumn
  split
  · exact L.of_seq (drafts.word (by decide) (drafts_single h.draft))
  · exact L.of_seq (drafts.word (by decide) (drafts_single (group (drafts_single h.draft))))
  · exact empty

end References

section Paths

variable (L) (g)

/-- Paths that are written alike, key by key and as a single text. -/
structure path (keys keys' : List Wording) : Prop where
  quoted : List.Forall₂
    (fun k k' => L.draft (k.quoted g.quoteString) (k'.quoted g.quoteString)) keys keys'
  joined : (∃ fault, Wording.texts 0 keys = .error fault ∧ Wording.texts 0 keys' = .error fault) ∨
    ∃ texts texts', Wording.texts 0 keys = .ok texts ∧ Wording.texts 0 keys' = .ok texts' ∧
      L.draft (JsonAccess.path g texts) (JsonAccess.path g texts')

variable {L} {g}

theorem arrows {keys keys' : List Wording}
    (h : List.Forall₂
      (fun k k' => L.draft (k.quoted g.quoteString) (k'.quoted g.quoteString)) keys keys') :
    L.drafts (JsonAccess.arrows g keys) (JsonAccess.arrows g keys') := by
  induction h with
  | nil => exact .nil
  | cons hkey hrest ih =>
      cases hrest with
      | nil => exact drafts.word (by decide) (drafts_single hkey)
      | cons _ _ => exact drafts.word (by decide) (.cons hkey ih)

theorem access {column column' : Draft} {keys keys' : List Wording} (hc : L.draft column column')
    (hk : L.path g keys keys') (a : JsonAccess) :
    L.draft (a.draft g column keys) (a.draft g column' keys') := by
  cases a with
  | keyArrows => exact group (drafts_single (join (by decide) (.cons hc (arrows hk.quoted))))
  | extractCall =>
      rcases hk.joined with ⟨fault, h, h'⟩ | ⟨texts, texts', h, h', htexts⟩
      · simp only [JsonAccess.draft, h, h']
        exact L.of_fail fault
      · simp only [JsonAccess.draft, h, h']
        exact L.of_seq
          (drafts.word (by decide) (drafts_single (group (.cons hc (drafts_single htexts)))))
  | pathArrow =>
      rcases hk.joined with ⟨fault, h, h'⟩ | ⟨texts, texts', h, h', htexts⟩
      · simp only [JsonAccess.draft, h, h']
        exact L.of_fail fault
      · simp only [JsonAccess.draft, h, h']
        exact group (drafts_single
          (join (by decide) (.cons hc (drafts.word (by decide) (drafts_single htexts)))))

theorem subpath {p p' : Piece} {keys keys' : List Wording} (hp : L.piece g p p')
    (hk : L.path g keys keys') : L.draft (.subpath g p keys) (.subpath g p' keys') := by
  have hempty : keys.isEmpty = keys'.isEmpty := by
    cases hk.quoted <;> rfl
  unfold Draft.subpath
  rw [hempty]
  split
  · exact L.of_fail _
  · split
    · exact access hp.draft hk _
    · exact empty

end Paths

section Conditions

variable {p p' q q' r r' : Piece}

theorem between (hp : L.piece g p p') (hq : L.piece g q q') (hr : L.piece g r r') :
    L.draft (.between p q r) (.between p' q' r') :=
  phrase ((hp.part.append (drafts.word (by decide) hq.part)).append
    (drafts.word (by decide) hr.part))

theorem pair {ps qs : List Piece} (h : L.pieces g ps qs) :
    (∃ fault, Piece.pair ps = .error fault ∧ Piece.pair qs = .error fault) ∨
      ∃ a b a' b', Piece.pair ps = .ok (a, b) ∧ Piece.pair qs = .ok (a', b') ∧
        L.piece g a a' ∧ L.piece g b b' := by
  match h with
  | .nil => exact .inl ⟨_, rfl, rfl⟩
  | .cons _ .nil => exact .inl ⟨_, rfl, rfl⟩
  | .cons ha (.cons hb .nil) => exact .inr ⟨_, _, _, _, rfl, rfl, ha, hb⟩
  | .cons _ (.cons _ (.cons _ hrest)) =>
      refine .inl ⟨.tooManyParts, ?_, ?_⟩
      · simp [Piece.pair]
      · simp [Piece.pair]

/-- Pairs of pieces that are alike. -/
def pairLike (L : Likeness) (g : Grammar) (a b : Piece × Piece) : Prop :=
  L.piece g a.1 b.1 ∧ L.piece g a.2 b.2

theorem pairs {rows rows' : List (List Piece)} (h : List.Forall₂ (L.pieces g) rows rows') :
    (∃ fault, Piece.pairs rows = .error fault ∧ Piece.pairs rows' = .error fault) ∨
      ∃ ps ps', Piece.pairs rows = .ok ps ∧ Piece.pairs rows' = .ok ps' ∧
        List.Forall₂ (L.pairLike g) ps ps' := by
  induction h with
  | nil => exact .inr ⟨[], [], rfl, rfl, .nil⟩
  | cons hrow _ ih =>
      rcases pair hrow with ⟨fault, h, h'⟩ | ⟨a, b, a', b', h, h', ha, hb⟩
      · exact .inl ⟨fault, by simp [Piece.pairs, h], by simp [Piece.pairs, h']⟩
      · rcases ih with ⟨fault, hps, hps'⟩ | ⟨ps, ps', hps, hps', hpairs⟩
        · refine .inl ⟨fault, ?_, ?_⟩
          · simp [Piece.pairs, h, hps, Except.map]
          · simp [Piece.pairs, h', hps', Except.map]
        · refine .inr ⟨(a, b) :: ps, (a', b') :: ps', ?_, ?_, .cons ⟨ha, hb⟩ hpairs⟩
          · simp [Piece.pairs, h, hps, Except.map]
          · simp [Piece.pairs, h', hps', Except.map]

theorem drafts_pairs {f f' : Piece × Piece → List Draft} {ps ps' : List (Piece × Piece)}
    (h : List.Forall₂ (L.pairLike g) ps ps')
    (hf : ∀ a b, L.pairLike g a b → L.drafts (f a) (f' b)) :
    L.drafts (ps.flatMap f) (ps'.flatMap f') := by
  induction h with
  | nil => exact .nil
  | cons hpair _ ih => exact (hf _ _ hpair).append ih

theorem case {rows rows' : List (List Piece)} (h : List.Forall₂ (L.pieces g) rows rows')
    (hp : L.piece g p p') (hq : L.piece g q q') :
    L.draft (.case rows p q) (.case rows' p' q') := by
  unfold Draft.case
  rcases pairs h with ⟨fault, hps, hps'⟩ | ⟨ps, ps', hps, hps', hpairs⟩
  · rw [hps, hps']
    exact L.of_fail fault
  · rw [hps, hps', hq.isAbsent_eq]
    have hwhen : L.drafts
        (ps.flatMap fun p => .text "WHEN" :: p.1.part ++ .text "THEN" :: p.2.part)
        (ps'.flatMap fun p => .text "WHEN" :: p.1.part ++ .text "THEN" :: p.2.part) :=
      drafts_pairs hpairs fun a b hab =>
        (drafts.word (by decide) hab.1.part).append (drafts.word (by decide) hab.2.part)
    have helse : L.drafts
        (if q'.isAbsent then [] else .text "ELSE" :: q.part)
        (if q'.isAbsent then [] else .text "ELSE" :: q'.part) := by
      split
      · exact .nil
      · exact drafts.word (by decide) hq.part
    exact phrase ((((drafts.word (by decide) hp.part).append hwhen).append helse).append
      (drafts.word (by decide) .nil))

end Conditions

end Likeness

end SqlRender
