import SqlRender.Proofs.Expr.Relabel
import SqlRender.Proofs.Likeness.Basic

/-!
# Triggers of a kind

The creation and removal of triggers respect every likeness. Which rules a trigger breaks is told
from the shapes of its parts alone.
-/

namespace SqlRender

namespace Likeness

variable {L : Likeness} {g : Grammar} {ε : Type} {f f' : ε → Piece} {r : Relabel}

section Create

variable {c : CreateTrigger ε} (h : ∀ x ∈ c.parts, L.piece g (f x) (f' x))

include h

theorem broken_eq (features : FeatureSet TriggerCreateFeature) :
    (c.map f).broken? features = ((c.relabel r).map f').broken? features := by
  have time := h c.time (by simp [CreateTrigger.parts])
  have insteadOf := time.isKeyword_eq (k := .triggerTime .insteadOf) nofun
  have after := time.isKeyword_eq (k := .triggerTime .after) nofun
  have onUpdate := (h c.event (by simp [CreateTrigger.parts])).isKeyword_eq
    (k := .triggerEvent .update) nofun
  have forEachRow := (h c.each (by simp [CreateTrigger.parts])).isKeyword_eq
    (k := .triggerEach .row) nofun
  have timing := (h c.timing (by simp [CreateTrigger.parts])).isAbsent_eq
  have condition := (h c.condition (by simp [CreateTrigger.parts])).isAbsent_eq
  have procedure := (h c.procedure (by simp [CreateTrigger.parts])).isAbsent_eq
  have definer := (h c.definer (by simp [CreateTrigger.parts])).isAbsent_eq
  unfold CreateTrigger.broken? CreateTrigger.rules CreateTrigger.relabel CreateTrigger.map
  simp only [insteadOf, after, onUpdate, forEachRow, timing, condition, procedure, definer,
    r.flag_holds, List.isEmpty_map, Option.isSome_map]

theorem eachClause (features : FeatureSet TriggerCreateFeature) :
    L.drafts ((c.map f).eachClause features) (((c.relabel r).map f').eachClause features) := by
  have each := h c.each (by simp [CreateTrigger.parts])
  have hflag : ((c.relabel r).map f').isConstraint.holds = (c.map f).isConstraint.holds :=
    r.flag_holds _
  unfold CreateTrigger.eachClause
  rw [hflag]
  split
  · exact drafts_single (text_plain (by decide))
  · split
    · exact each.part
    · exact .nil

theorem conditionClause (features : FeatureSet TriggerCreateFeature) :
    L.drafts ((c.map f).conditionClause features)
      (((c.relabel r).map f').conditionClause features) := by
  have condition := h c.condition (by simp [CreateTrigger.parts])
  have habsent : (c.map f).condition.isAbsent = ((c.relabel r).map f').condition.isAbsent :=
    condition.isAbsent_eq
  unfold CreateTrigger.conditionClause
  rw [habsent]
  split
  · refine drafts.word (by decide) ?_
    split
    · exact drafts_single condition.grouped
    · exact condition.part
  · exact .nil

theorem action (features : FeatureSet TriggerCreateFeature) :
    L.drafts ((c.map f).action features) (((c.relabel r).map f').action features) := by
  have procedure := h c.procedure (by simp [CreateTrigger.parts])
  have habsent : (c.map f).procedure.isAbsent = ((c.relabel r).map f').procedure.isAbsent :=
    procedure.isAbsent_eq
  have byProcedure : L.drafts
      (if (c.map f).procedure.isAbsent then []
        else .text "EXECUTE PROCEDURE" :: (c.map f).procedure.part)
      (if ((c.relabel r).map f').procedure.isAbsent then []
        else .text "EXECUTE PROCEDURE" :: ((c.relabel r).map f').procedure.part) := by
    rw [habsent]
    split
    · exact .nil
    · exact drafts.word (by decide) procedure.part
  have byBody : ∀ statements ∈ c.body, L.pieces g (statements.map f) (statements.map f') := by
    intro statements hbody
    refine pieces_map fun x hx => h x ?_
    rw [Option.mem_def] at hbody
    simp [CreateTrigger.parts, hbody, hx]
  have hbody : (c.map f).body = c.body.map (·.map f) := rfl
  have hbody' : ((c.relabel r).map f').body = c.body.map (·.map f') := rfl
  unfold CreateTrigger.action
  rw [hbody, hbody']
  cases hstatements : c.body with
  | none => cases features.has .body <;> exact byProcedure
  | some statements =>
      cases features.has .body with
      | false => exact byProcedure
      | true =>
          refine drafts.word (by decide)
            (.cons (join (by decide) ?_) (drafts.word (by decide) .nil))
          exact (byBody statements hstatements).drafts

theorem clauses (features : FeatureSet TriggerCreateFeature) :
    L.drafts ((c.map f).clauses features) (((c.relabel r).map f').clauses features) := by
  have name := h c.name (by simp [CreateTrigger.parts])
  have table := h c.table (by simp [CreateTrigger.parts])
  have time := h c.time (by simp [CreateTrigger.parts])
  have event := h c.event (by simp [CreateTrigger.parts])
  have timing := h c.timing (by simp [CreateTrigger.parts])
  have referencedTable := h c.referencedTable (by simp [CreateTrigger.parts])
  have definer := h c.definer (by simp [CreateTrigger.parts])
  have order := h c.order (by simp [CreateTrigger.parts])
  have orderTrigger := h c.orderTrigger (by simp [CreateTrigger.parts])
  have columns : L.pieces g (c.columns.map f) (c.columns.map f') :=
    pieces_map fun x hx => h x (by simp [CreateTrigger.parts, hx])
  have constraint : L.drafts
      (Draft.wordIf (features.has .constraints && c.isConstraint.holds) "CONSTRAINT")
      (Draft.wordIf (features.has .constraints && (r.flag c.isConstraint).holds) "CONSTRAINT") := by
    rw [r.flag_holds]
    exact wordIf (by decide) _
  have definers : L.drafts
      (if !(f c.definer).isAbsent && features.has .definer then
        .text "DEFINER =" :: (f c.definer).part else [])
      (if !(f' c.definer).isAbsent && features.has .definer then
        .text "DEFINER =" :: (f' c.definer).part else []) := by
    rw [definer.isAbsent_eq]
    split
    · exact drafts.word (by decide) definer.part
    · exact .nil
  have names : L.drafts
      (if !(c.columns.map f).isEmpty && features.has .updateColumns then
        [.text "OF", .join ", " (Piece.drafts (c.columns.map f))] else [])
      (if !(c.columns.map f').isEmpty && features.has .updateColumns then
        [.text "OF", .join ", " (Piece.drafts (c.columns.map f'))] else []) := by
    rw [columns.isEmpty_eq]
    split
    · exact drafts.word (by decide) (drafts_single (join (by decide) columns.drafts))
    · exact .nil
  have deferral : L.drafts
      (if features.has .constraints then
        (f c.referencedTable).clause "FROM" ++ (f c.timing).part else [])
      (if features.has .constraints then
        (f' c.referencedTable).clause "FROM" ++ (f' c.timing).part else []) := by
    split
    · exact (referencedTable.clause (by decide)).append timing.part
    · exact .nil
  have orders : L.drafts
      (if !(f c.order).isAbsent && !(f c.orderTrigger).isAbsent && features.has .order then
        (f c.order).part ++ (f c.orderTrigger).part else [])
      (if !(f' c.order).isAbsent && !(f' c.orderTrigger).isAbsent && features.has .order then
        (f' c.order).part ++ (f' c.orderTrigger).part else []) := by
    rw [order.isAbsent_eq, orderTrigger.isAbsent_eq]
    split
    · exact order.part.append orderTrigger.part
    · exact .nil
  exact ((((((((((((drafts.word (by decide) constraint).append
    (drafts.word (by decide) name.part)).append definers).append time.part).append
    event.part).append names).append
    (drafts.word (by decide) table.part)).append deferral).append
    (eachClause h features)).append
    (conditionClause h features)).append orders).append
    (action h features))

theorem createTrigger : L.draft ((c.map f).draft g) (((c.relabel r).map f').draft g) := by
  unfold CreateTrigger.draft
  rw [broken_eq h (r := r)]
  split
  · exact L.of_fail _
  · exact phrase (clauses h _)

end Create

theorem dropTrigger {d : DropTrigger ε} (h : ∀ x ∈ d.parts, L.piece g (f x) (f' x)) :
    L.draft ((d.map f).draft g) (((d.relabel r).map f').draft g) := by
  have name := h d.name (by simp [DropTrigger.parts])
  have table := h d.table (by simp [DropTrigger.parts])
  have behavior := h d.behavior (by simp [DropTrigger.parts])
  have hguard : ((d.relabel r).map f').ifExists.holds = (d.map f).ifExists.holds :=
    r.flag_holds _
  unfold DropTrigger.draft
  rw [hguard]
  refine phrase ((((drafts.word (by decide) (wordIf (by decide) _)).append name.part).append
    ?_).append ?_)
  · split
    · exact table.clause (by decide)
    · exact .nil
  · split
    · exact behavior.part
    · exact .nil

end Likeness

end SqlRender
