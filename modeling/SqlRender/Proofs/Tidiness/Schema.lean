import SqlRender.Expr.Node
import SqlRender.Proofs.Expr.Parts
import SqlRender.Proofs.Tidiness.Basic

/-!
# Tidy schemas

Types, columns, constraints, tables, indexes, named types and triggers that are made from tidy parts
are tidy. Four constraints write a space in front of a part themselves, and need the part to have
text.
-/

namespace SqlRender

variable {g : Grammar}

namespace Draft

variable {p q r : Piece} {ps : List Piece}

/-! ## Types and constraints -/

theorem isTidy_dataType (tidy : g.Tidy) (kind : DataKind) (h : p.IsTidy) :
    (dataType g kind p).IsTidy := by
  unfold dataType
  split
  · rename_i hname
    exact .text (tidy.ownTypeName hname)
  · split
    · exact .text (by cases kind <;> decide)
    · exact h.draft

theorem isTidy_textType (tidy : g.Tidy) : (textType g).IsTidy := by
  unfold textType
  cases hname : g.ownTypeName .text with
  | none => exact .text (by decide)
  | some name => exact .text (tidy.ownTypeName hname)

theorem isTidy_enumDataType (tidy : g.Tidy) (h : ∀ p ∈ ps, p.IsTidy) :
    (enumDataType g ps).IsTidy := by
  unfold enumDataType
  split
  · exact .seq (.word (by decide) (.single (.group (Piece.allTidy_drafts h))))
  · exact .seq (.cons (.warn _) (.single (isTidy_textType tidy)))
  · exact isTidy_textType tidy

theorem isTidy_primaryKey (tidy : g.Tidy) (autoIncrement : Bool) :
    (primaryKey g autoIncrement).IsTidy := by
  unfold primaryKey
  split
  · exact .text (by decide)
  split
  · exact .seq (.cons (.warn _) (.word (by decide) .nil))
  split
  · rename_i function hfunction
    have hword : function ∈ g.words := by simp [Grammar.words, hfunction]
    have hdefault : (g.defaultWord ++ " " ++ function).toList.head? ≠ some ' ' := by
      rw [String.append_assoc, Text.head?_append tidy.defaultWord_ne]
      exact tidy.defaultWord.start
    have hvalue : Text.IsTidy (g.defaultWord ++ " " ++ function) :=
      tidy.defaultWord.around tidy.defaultWord_ne (tidy.spacing _ hword) (tidy.visible _ hword)
        (by decide)
    refine .text (hvalue.before ?_ (by decide) (by decide))
    simp [tidy.defaultWord_ne]
  · have hword : g.autoIncrementClause ∈ g.words := by simp [Grammar.words]
    exact .text ((tidy.spacing _ hword).after (tidy.visible _ hword) (by decide) (by decide))

/-- A word with a space behind it, before a part that has text. -/
theorem isTidy_wordBefore {word : String} {d : Draft} (h : d.IsTidy) (h_ne : d.isBlank = false)
    (sparse : Text.IsSparse word) (start : word.toList.head? ≠ some ' ') :
    (seq [.text word, d]).IsTidy :=
  .after (.seq (.single h)) (by simp [h_ne]) sparse start

theorem isTidy_columnConstraint (tidy : g.Tidy) (kind : ColumnConstraintKind) (h : p.IsTidy)
    (autoIncrement : Bool)
    (full : kind = .collate ∨ kind = .default → p.draft.isBlank = false) :
    (columnConstraint g kind p autoIncrement).IsTidy := by
  cases kind with
  | primaryKey => exact isTidy_primaryKey tidy autoIncrement
  | notNull => exact .text (by decide)
  | unique => exact .text (by decide)
  | check => exact isTidy_wordBefore h.grouped p.isBlank_grouped (by decide) (by decide)
  | collate => exact isTidy_wordBefore h.draft (full (.inl rfl)) (by decide) (by decide)
  | default => exact isTidy_wordBefore h.draft (full (.inr rfl)) (by decide) (by decide)
  | generated =>
      refine .after (.before h.grouped p.isBlank_grouped (by decide) (by decide)) ?_
        (by decide) (by decide)
      simp [p.isBlank_grouped]
  | foreignKey => exact h.draft
  | custom => exact h.draft

theorem isTidy_tableConstraint (kind : TableConstraintKind) (hs : ∀ p ∈ ps, p.IsTidy)
    (h : p.IsTidy) (full : kind = .foreignKey → p.draft.isBlank = false) :
    (tableConstraint kind ps p).IsTidy := by
  have columns : IsTidy (.group (Piece.drafts ps)) := .group (Piece.allTidy_drafts hs)
  cases kind with
  | primaryKey => exact isTidy_wordBefore columns (isBlank_group _) (by decide) (by decide)
  | unique => exact isTidy_wordBefore columns (isBlank_group _) (by decide) (by decide)
  | check => exact isTidy_wordBefore h.grouped p.isBlank_grouped (by decide) (by decide)
  | foreignKey =>
      refine .after (.around columns (isBlank_group _) h.draft (full rfl) (by decide)) ?_
        (by decide) (by decide)
      simp [isBlank_group]

theorem isTidy_foreignKey (hp : p.IsTidy) (hs : ∀ p ∈ ps, p.IsTidy) (hq : q.IsTidy)
    (hr : r.IsTidy) : (foreignKey p ps q r).IsTidy :=
  .phrase ((((AllTidy.word (by decide) hp.part).append
    (.single (.group (Piece.allTidy_drafts hs)))).append
    (hq.clause (by decide) (by decide))).append (hr.clause (by decide) (by decide)))

theorem allTidy_constraintName (tidy : g.Tidy) (h : p.IsTidy) :
    AllTidy (p.constraintName g) := by
  have hshape := h.shape
  unfold Piece.constraintName
  split
  · rename_i heq
    rw [heq] at hshape
    exact .single (.text (tidy.quoteIdentifier (tidy.kept hshape)))
  · exact h.part

theorem isTidy_constraint (tidy : g.Tidy) (hp : p.IsTidy) (hq : q.IsTidy) :
    (constraint g p q).IsTidy := by
  unfold constraint
  split
  · exact .fail _
  · exact .phrase ((AllTidy.ite .nil
      (.word (by decide) (allTidy_constraintName tidy hq))).append hp.part)

/-! ## Columns and named types -/

theorem isTidy_columnDefinition (hp : p.IsTidy) (hq : q.IsTidy) (hs : ∀ p ∈ ps, p.IsTidy) :
    (columnDefinition p q ps).IsTidy :=
  .phrase ((hp.part.append hq.part).append
    (.ite .nil (.single (.join (by decide) (Piece.allTidy_drafts hs)))))

theorem isTidy_alterColumnType (tidy : g.Tidy) (hp : p.IsTidy) (hq : q.IsTidy) :
    (alterColumnType g p q).IsTidy := by
  refine .phrase ((hp.part.append ?_).append hq.part)
  cases hword : g.alterTable.typeKeyword with
  | none => exact .nil
  | some word => exact .single (.text (tidy.typeKeyword hword))

theorem isTidy_namedEnum {verb : String} (hverb : Text.IsTidy verb) {ds : List Draft}
    (h : AllTidy ds) : (namedEnum g verb ds).IsTidy := by
  unfold namedEnum
  simp only
  split
  · exact .phrase (.word hverb h)
  · exact .seq (.cons (.warn _) (.single (.phrase (.word hverb h))))

theorem isTidy_createEnum (hp : p.IsTidy) (hs : ∀ p ∈ ps, p.IsTidy) :
    (createEnum g p ps).IsTidy :=
  isTidy_namedEnum (by decide)
    (hp.part.append (.word (by decide) (.single (.group (Piece.allTidy_drafts hs)))))

theorem isTidy_alterEnum (hp : p.IsTidy) (hq : q.IsTidy) : (alterEnum g p q).IsTidy :=
  isTidy_namedEnum (by decide) (hp.part.append (hq.clause (by decide) (by decide)))

theorem isTidy_dropEnum (hp : p.IsTidy) (ifExists cascade : Bool) :
    (dropEnum g p ifExists cascade).IsTidy :=
  isTidy_namedEnum (by decide)
    (((AllTidy.wordIf (by decide) ifExists).append hp.part).append
      (.wordIf (by decide) cascade))

end Draft

open Draft (AllTidy)

/-! ## Tables and indexes -/

theorem CreateTable.isTidy_draft {c : CreateTable Piece} (h : ∀ p ∈ c.parts, p.IsTidy) :
    (c.draft g).IsTidy := by
  simp only [parts, List.forall_mem_cons] at h
  obtain ⟨table, asQuery, definitions⟩ := h
  have warned {d : Draft} (hd : d.IsTidy) {unguarded : Bool} {warning : Warning} :
      Draft.IsTidy (if unguarded then .seq [.warn warning, d] else d) := by
    split
    · exact .seq (.cons (.warn _) (.single hd))
    · exact hd
  exact warned (.phrase (((((AllTidy.word (by decide) (.wordIf (by decide) _)).append
    (.word (by decide) (.wordIf (by decide) _))).append table.part).append
    (Piece.allTidy_groupIfAny definitions)).append (asQuery.clause (by decide) (by decide))))

theorem AlterTable.allTidy_alterations (tidy : g.Tidy) {a : AlterTable Piece}
    (h : ∀ p ∈ a.parts, p.IsTidy) : AllTidy (a.alterations g) := by
  have alteration {verb : String} (hverb : Text.IsTidy verb) {ps : List Piece}
      (hps : ∀ p ∈ ps, p.IsTidy) {k : Piece → List Draft}
      (hk : ∀ {p : Piece}, p.IsTidy → AllTidy (k p)) :
      AllTidy (ps.map fun p => alteration verb (k p)) :=
    List.forall_mem_map.2 fun p hp => .phrase (.word hverb (hk (hps p hp)))
  simp only [parts, List.forall_mem_cons, List.forall_mem_append] at h
  obtain ⟨-, -, ⟨⟨⟨addColumns, modifyColumns⟩, dropColumns⟩, addConstraints⟩, dropConstraints⟩ := h
  have added : ∀ p ∈ a.addColumns ++ a.addConstraints, p.IsTidy :=
    List.forall_mem_append.2 ⟨addColumns, addConstraints⟩
  exact (((alteration (by decide) added fun hp => hp.part).append
    (alteration (by decide) dropColumns fun hp => hp.part)).append
    (alteration (by decide) dropConstraints (Draft.allTidy_constraintName tidy))).append
    (alteration tidy.modifyVerb modifyColumns fun hp => hp.part)

theorem AlterTable.isTidy_draft (tidy : g.Tidy) {a : AlterTable Piece}
    (h : ∀ p ∈ a.parts, p.IsTidy) : (a.draft g).IsTidy := by
  have alterations := allTidy_alterations tidy h
  simp only [parts, List.forall_mem_cons] at h
  obtain ⟨table, renameTo, -⟩ := h
  have warnings : AllTidy ((a.warnings g).map .warn) :=
    List.forall_mem_map.2 fun warning _ => .warn warning
  unfold draft
  split
  · exact .fail _
  · exact .seq (warnings.append (.single (.phrase
      (((AllTidy.word (by decide) table.part).append
        (renameTo.clause (by decide) (by decide))).append
        (.single (.join (by decide) alterations))))))

theorem DropTable.isTidy_draft {d : DropTable Piece} (h : ∀ p ∈ d.parts, p.IsTidy) :
    (d.draft g).IsTidy := by
  simp only [parts, List.forall_mem_cons] at h
  obtain ⟨table, behavior, -⟩ := h
  exact .phrase ((((AllTidy.word (by decide) (.wordIf (by decide) _)).append
    (.word (by decide) (.wordIf (by decide) _))).append table.part).append
    (.ite behavior.part .nil))

theorem CreateIndex.isTidy_draft {c : CreateIndex Piece} (h : ∀ p ∈ c.parts, p.IsTidy) :
    c.draft.IsTidy := by
  simp only [parts, List.forall_mem_cons] at h
  obtain ⟨name, table, modifier, predicate, columns⟩ := h
  exact .phrase (((((AllTidy.word (by decide) modifier.part).append
    (.word (by decide) name.part)).append (.word (by decide) table.part)).append
    (.single (.group (Piece.allTidy_drafts columns)))).append
    (predicate.clause (by decide) (by decide)))

theorem DropIndex.isTidy_draft {d : DropIndex Piece} (h : ∀ p ∈ d.parts, p.IsTidy) :
    (d.draft g).IsTidy := by
  simp only [parts, List.forall_mem_cons] at h
  obtain ⟨name, owner, behavior, -⟩ := h
  exact .phrase ((((AllTidy.word (by decide) (.wordIf (by decide) _)).append name.part).append
    (owner.clause (by decide) (by decide))).append (.ite behavior.part .nil))

/-! ## Triggers -/

namespace CreateTrigger

variable {c : CreateTrigger Piece} (h : ∀ p ∈ c.parts, p.IsTidy)
  (features : FeatureSet TriggerCreateFeature)

include h

theorem allTidy_action : AllTidy (c.action features) := by
  simp only [parts, List.forall_mem_cons, List.forall_mem_append] at h
  obtain ⟨-, -, -, -, -, -, -, -, procedure, -, -, -, -, body⟩ := h
  unfold action
  split
  · rename_i hbody
    rw [hbody] at body
    exact .word (by decide) (.cons (.join (by decide) (Piece.allTidy_drafts body))
      (.word (by decide) .nil))
  · exact .ite .nil (.word (by decide) procedure.part)

theorem allTidy_conditionClause : AllTidy (c.conditionClause features) := by
  have condition := h c.condition (by simp [parts])
  exact .ite (.word (by decide) (.ite (.single condition.grouped) condition.part)) .nil

theorem allTidy_eachClause : AllTidy (c.eachClause features) := by
  have each := h c.each (by simp [parts])
  exact .ite (.word (by decide) .nil) (.ite each.part .nil)

theorem allTidy_clauses : AllTidy (c.clauses features) := by
  have each := allTidy_eachClause h features
  have condition := allTidy_conditionClause h features
  have action := allTidy_action h features
  simp only [parts, List.forall_mem_cons, List.forall_mem_append] at h
  obtain ⟨name, table, time, event, timing, referencedTable, -, -, -, definer, order,
    orderTrigger, columns, -⟩ := h
  exact ((((((((((((AllTidy.word (by decide) (.wordIf (by decide) _)).append
    (.word (by decide) name.part)).append
    (.ite (.word (by decide) definer.part) .nil)).append time.part).append event.part).append
    (.ite (.word (by decide) (.single (.join (by decide) (Piece.allTidy_drafts columns))))
      .nil)).append
    (.word (by decide) table.part)).append
    (.ite ((referencedTable.clause (by decide) (by decide)).append timing.part) .nil)).append
    each).append condition).append (.ite (order.part.append orderTrigger.part) .nil)).append action)

theorem isTidy_draft : (c.draft g).IsTidy := by
  unfold draft
  split
  · exact .fail _
  · exact .phrase (allTidy_clauses h _)

end CreateTrigger

theorem DropTrigger.isTidy_draft {d : DropTrigger Piece} (h : ∀ p ∈ d.parts, p.IsTidy) :
    (d.draft g).IsTidy := by
  simp only [parts, List.forall_mem_cons] at h
  obtain ⟨name, table, behavior, -⟩ := h
  exact .phrase ((((AllTidy.word (by decide) (.wordIf (by decide) _)).append name.part).append
    (.ite (table.clause (by decide) (by decide)) .nil)).append (.ite behavior.part .nil))

end SqlRender
