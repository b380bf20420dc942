import SqlRender.Proofs.Expr.Relabel
import SqlRender.Proofs.Likeness.Basic

/-!
# Schemas of a kind

Types, columns, constraints, tables, indexes and named types respect every likeness in which the
words that a dialect brings along are like themselves.
-/

namespace SqlRender

namespace Likeness

variable (L : Likeness) (g : Grammar)

/-- The words of a dialect for its schemas are like themselves. -/
structure fits : Prop where
  primaryKey : L.draft (.primaryKey g true) (.primaryKey g true)
  typeName {kind : DataKind} {name : String} : g.ownTypeName kind = some name → L.text name name
  modifyVerb : L.text g.alterTable.modifyVerbOrFallback g.alterTable.modifyVerbOrFallback
  typeKeyword {word : String} : g.alterTable.typeKeyword = some word → L.text word word

variable {L} {g}

section Parts

variable {p p' q q' r r' : Piece} {ps ps' : List Piece}

theorem standardName (kind : DataKind) : L.text kind.standardName kind.standardName :=
  L.plain (by cases kind <;> decide)

theorem dataType (fit : L.fits g) (kind : DataKind) (h : L.piece g p p') :
    L.draft (.dataType g kind p) (.dataType g kind p') := by
  unfold Draft.dataType
  split
  · rename_i name hname
    exact L.of_text (fit.typeName hname)
  · rw [h.isAbsent_eq]
    split
    · exact L.of_text (standardName kind)
    · exact h.draft

theorem textType (fit : L.fits g) : L.draft (.textType g) (.textType g) := by
  unfold Draft.textType
  cases hname : g.ownTypeName .text with
  | none => exact L.of_text (standardName .text)
  | some name => exact L.of_text (fit.typeName hname)

theorem enumDataType (fit : L.fits g) (h : L.pieces g ps ps') :
    L.draft (.enumDataType g ps) (.enumDataType g ps') := by
  unfold Draft.enumDataType
  split
  · exact L.of_seq (drafts.word (by decide) (drafts_single (group h.drafts)))
  · exact L.of_seq (.cons (L.of_warn _) (drafts_single (textType fit)))
  · exact textType fit

theorem primaryKey (fit : L.fits g) (autoIncrement : Bool) :
    L.draft (.primaryKey g autoIncrement) (.primaryKey g autoIncrement) := by
  cases autoIncrement with
  | true => exact fit.primaryKey
  | false => exact text_plain (by decide)

theorem columnConstraint (fit : L.fits g) (kind : ColumnConstraintKind) (h : L.piece g p p')
    (autoIncrement : Bool) :
    L.draft (.columnConstraint g kind p autoIncrement)
      (.columnConstraint g kind p' autoIncrement) := by
  cases kind with
  | primaryKey => exact primaryKey fit autoIncrement
  | notNull => exact text_plain (by decide)
  | unique => exact text_plain (by decide)
  | check => exact L.of_seq (drafts.word (by decide) (drafts_single h.grouped))
  | collate => exact L.of_seq (drafts.word (by decide) (drafts_single h.draft))
  | default => exact L.of_seq (drafts.word (by decide) (drafts_single h.draft))
  | generated =>
      exact L.of_seq (drafts.word (by decide) (.cons h.grouped (drafts.word (by decide) .nil)))
  | foreignKey => exact h.draft
  | custom => exact h.draft

theorem tableConstraint (kind : TableConstraintKind) (hs : L.pieces g ps ps')
    (h : L.piece g p p') :
    L.draft (.tableConstraint kind ps p) (.tableConstraint kind ps' p') := by
  have columns := group hs.drafts
  cases kind with
  | primaryKey => exact L.of_seq (drafts.word (by decide) (drafts_single columns))
  | unique => exact L.of_seq (drafts.word (by decide) (drafts_single columns))
  | check => exact L.of_seq (drafts.word (by decide) (drafts_single h.grouped))
  | foreignKey =>
      exact L.of_seq (drafts.word (by decide) (.cons columns
        (drafts.word (by decide) (drafts_single h.draft))))

theorem foreignKey (hp : L.piece g p p') (hs : L.pieces g ps ps') (hq : L.piece g q q')
    (hr : L.piece g r r') :
    L.draft (.foreignKey p ps q r) (.foreignKey p' ps' q' r') :=
  phrase ((((drafts.word (by decide) hp.part).append (drafts_single (group hs.drafts))).append
    (hq.clause (by decide))).append (hr.clause (by decide)))

theorem constraintName (h : L.piece g p p') :
    L.drafts (p.constraintName g) (p'.constraintName g) := by
  have hpart := h.part
  obtain ⟨-, hshape, -⟩ := h
  cases p
  cases p'
  cases hshape with
  | identifier hname => exact drafts_single (L.of_text hname)
  | _ => exact hpart

theorem constraintNameFault_eq (h : L.piece g p p') :
    p.constraintNameFault? g = p'.constraintNameFault? g := by
  obtain ⟨-, hshape, -⟩ := h
  cases p
  cases p'
  cases hshape with
  | nameless htype hsize =>
      unfold Piece.constraintNameFault?
      cases g.constraintName with
      | none => rfl
      | some limit => simp only [htype, hsize]
  | _ => rfl

theorem constraint (hp : L.piece g p p') (hq : L.piece g q q') :
    L.draft (.constraint g p q) (.constraint g p' q') := by
  unfold Draft.constraint
  rw [constraintNameFault_eq hq]
  split
  · exact L.of_fail _
  · refine phrase (drafts.append ?_ hp.part)
    rw [hq.isAbsent_eq]
    split
    · exact .nil
    · exact drafts.word (by decide) (constraintName hq)

theorem columnDefinition (hp : L.piece g p p') (hq : L.piece g q q') (hs : L.pieces g ps ps') :
    L.draft (.columnDefinition p q ps) (.columnDefinition p' q' ps') := by
  refine phrase ((hp.part.append hq.part).append ?_)
  rw [hs.isEmpty_eq]
  split
  · exact .nil
  · exact drafts_single (join (by decide) hs.drafts)

theorem alterColumnType (fit : L.fits g) (hp : L.piece g p p') (hq : L.piece g q q') :
    L.draft (.alterColumnType g p q) (.alterColumnType g p' q') := by
  refine phrase ((hp.part.append ?_).append hq.part)
  cases hword : g.alterTable.typeKeyword with
  | none => exact .nil
  | some word => exact drafts_single (L.of_text (fit.typeKeyword hword))

theorem namedEnum {verb : String} (hverb : Text.isPlain verb = true) {ds es : List Draft}
    (h : L.drafts ds es) : L.draft (.namedEnum g verb ds) (.namedEnum g verb es) := by
  unfold Draft.namedEnum
  simp only
  split
  · exact phrase (drafts.word hverb h)
  · exact L.of_seq (.cons (L.of_warn _) (drafts_single (phrase (drafts.word hverb h))))

theorem createEnum (hp : L.piece g p p') (hs : L.pieces g ps ps') :
    L.draft (.createEnum g p ps) (.createEnum g p' ps') :=
  namedEnum (by decide)
    (hp.part.append (drafts.word (by decide) (drafts_single (group hs.drafts))))

theorem alterEnum (hp : L.piece g p p') (hq : L.piece g q q') :
    L.draft (.alterEnum g p q) (.alterEnum g p' q') :=
  namedEnum (by decide) (hp.part.append (hq.clause (by decide)))

theorem dropEnum (hp : L.piece g p p') (ifExists cascade : Bool) :
    L.draft (.dropEnum g p ifExists cascade) (.dropEnum g p' ifExists cascade) :=
  namedEnum (by decide)
    (((wordIf (by decide) ifExists).append hp.part).append (wordIf (by decide) cascade))

end Parts

/-! ## Statements -/

section Statements

variable {ε : Type} {f f' : ε → Piece} {r : Relabel}

theorem createTable {c : CreateTable ε} (h : ∀ x ∈ c.parts, L.piece g (f x) (f' x)) :
    L.draft ((c.map f).draft g) (((c.relabel r).map f').draft g) := by
  have table := h c.table (by simp [CreateTable.parts])
  have asQuery := h c.asQuery (by simp [CreateTable.parts])
  have definitions : L.pieces g (c.map f).definitions ((c.relabel r).map f').definitions := by
    have hboth : L.pieces g ((c.columns ++ c.tableConstraints).map f)
        ((c.columns ++ c.tableConstraints).map f') :=
      pieces_map fun x hx => h x (List.mem_cons_of_mem _ (List.mem_cons_of_mem _ hx))
    rw [List.map_append, List.map_append] at hboth
    exact hboth
  have hguard : ((c.relabel r).map f').ifNotExists.holds = (c.map f).ifNotExists.holds :=
    r.flag_holds _
  have htemporary : ((c.relabel r).map f').temporary.holds = (c.map f).temporary.holds :=
    r.flag_holds _
  unfold CreateTable.draft
  rw [hguard, htemporary]
  have temporary : L.drafts (Draft.wordIf (c.map f).temporary.holds "TEMPORARY") _ :=
    wordIf (by decide) _
  have guard : L.drafts (Draft.wordIf ((c.map f).ifNotExists.holds && g.supportsIfExists)
      "IF NOT EXISTS") _ := wordIf (by decide) _
  have query : L.drafts ((c.map f).asQuery.clause "AS") _ := asQuery.clause (by decide)
  have statement := phrase (((((drafts.word (s := "CREATE") (by decide) temporary).append
    (drafts.word (s := "TABLE") (by decide) guard)).append
    table.part).append definitions.groupIfAny).append query)
  simp only
  split
  · exact L.of_seq (.cons (L.of_warn _) (drafts_single statement))
  · exact statement

theorem alteration {verb : String} {ds es : List Draft} (hverb : L.text verb verb)
    (h : L.drafts ds es) :
    L.draft (AlterTable.alteration verb ds) (AlterTable.alteration verb es) :=
  phrase (.cons (L.of_text hverb) h)

theorem alterations_map (verb : String) {xs : List ε} {k : Piece → List Draft}
    (hverb : L.text verb verb) (h : ∀ x ∈ xs, L.drafts (k (f x)) (k (f' x))) :
    L.drafts ((xs.map f).map fun p => AlterTable.alteration verb (k p))
      ((xs.map f').map fun p => AlterTable.alteration verb (k p)) := by
  induction xs with
  | nil => exact .nil
  | cons x xs ih =>
      rw [List.forall_mem_cons] at h
      exact .cons (alteration hverb h.1) (ih h.2)

theorem warnings_eq (f f' : ε → Piece) {a : AlterTable ε} :
    (a.map f).warnings g = (a.map f').warnings g := by
  simp [AlterTable.warnings, AlterTable.alterations, AlterTable.map]

theorem alterTable (fit : L.fits g) {a : AlterTable ε}
    (h : ∀ x ∈ a.parts, L.piece g (f x) (f' x)) :
    L.draft ((a.map f).draft g) ((a.map f').draft g) := by
  have table := h a.table (by simp [AlterTable.parts])
  have renameTo := h a.renameTo (by simp [AlterTable.parts])
  have added : ∀ x ∈ a.addColumns ++ a.addConstraints, L.piece g (f x) (f' x) := by
    intro x hx
    refine h x ?_
    simp only [List.mem_append] at hx
    rcases hx with hx | hx <;> simp [AlterTable.parts, hx]
  have dropped : ∀ x ∈ a.dropColumns, L.piece g (f x) (f' x) :=
    fun x hx => h x (by simp [AlterTable.parts, hx])
  have modified : ∀ x ∈ a.modifyColumns, L.piece g (f x) (f' x) :=
    fun x hx => h x (by simp [AlterTable.parts, hx])
  have unconstrained : ∀ x ∈ a.dropConstraints, L.piece g (f x) (f' x) :=
    fun x hx => h x (by simp [AlterTable.parts, hx])
  have alterations : L.drafts ((a.map f).alterations g) ((a.map f').alterations g) := by
    have adds := alterations_map "ADD" (L.plain (by decide))
      fun x hx => (added x hx).part
    have drops := alterations_map "DROP" (L.plain (by decide))
      fun x hx => (dropped x hx).part
    have releases := alterations_map "DROP CONSTRAINT" (L.plain (by decide))
      fun x hx => constraintName (unconstrained x hx)
    unfold AlterTable.alterations AlterTable.map
    simp only
    rw [← List.map_append (f := f), ← List.map_append (f := f')]
    exact ((adds.append drops).append releases).append
      (alterations_map _ fit.modifyVerb fun x hx => (modified x hx).part)
  have faults : (a.map f).dropConstraints.findSome? (Piece.constraintNameFault? g) =
      (a.map f').dropConstraints.findSome? (Piece.constraintNameFault? g) := by
    show (a.dropConstraints.map f).findSome? _ = (a.dropConstraints.map f').findSome? _
    generalize a.dropConstraints = xs at unconstrained
    induction xs with
    | nil => rfl
    | cons x xs ih =>
        rw [List.forall_mem_cons] at unconstrained
        rw [List.map_cons, List.map_cons, List.findSome?_cons, List.findSome?_cons,
          constraintNameFault_eq unconstrained.1, ih unconstrained.2]
  -- the faults come first, for all names, and the warnings before the statement
  unfold AlterTable.draft
  rw [faults, warnings_eq f f']
  split
  · exact L.of_fail _
  · refine L.of_seq (drafts.append ?_ (drafts_single (phrase
      (((drafts.word (by decide) table.part).append (renameTo.clause (by decide))).append
        (drafts_single (join (by decide) alterations))))))
    generalize (a.map f').warnings g = ws
    induction ws with
    | nil => exact .nil
    | cons w ws ih => exact .cons (L.of_warn w) ih

theorem dropTable {d : DropTable ε} (h : ∀ x ∈ d.parts, L.piece g (f x) (f' x)) :
    L.draft ((d.map f).draft g) (((d.relabel r).map f').draft g) := by
  have table := h d.table (by simp [DropTable.parts])
  have behavior := h d.behavior (by simp [DropTable.parts])
  have hguard : ((d.relabel r).map f').ifExists.holds = (d.map f).ifExists.holds :=
    r.flag_holds _
  have htemporary : ((d.relabel r).map f').temporary.holds = (d.map f).temporary.holds :=
    r.flag_holds _
  unfold DropTable.draft
  rw [hguard, htemporary]
  refine phrase ((((drafts.word (by decide) (wordIf (by decide) _)).append
    (drafts.word (by decide) (wordIf (by decide) _))).append table.part).append ?_)
  split
  · exact behavior.part
  · exact .nil

theorem createIndex {c : CreateIndex ε} (h : ∀ x ∈ c.parts, L.piece g (f x) (f' x)) :
    L.draft (c.map f).draft (c.map f').draft := by
  have name := h c.name (by simp [CreateIndex.parts])
  have table := h c.table (by simp [CreateIndex.parts])
  have modifier := h c.modifier (by simp [CreateIndex.parts])
  have predicate := h c.predicate (by simp [CreateIndex.parts])
  have columns : L.pieces g (c.columns.map f) (c.columns.map f') :=
    pieces_map fun x hx => h x (by simp [CreateIndex.parts, hx])
  exact phrase (((((drafts.word (by decide) modifier.part).append
    (drafts.word (by decide) name.part)).append
    (drafts.word (by decide) table.part)).append
    (drafts_single (group columns.drafts))).append (predicate.clause (by decide)))

theorem dropIndex {d : DropIndex ε} (h : ∀ x ∈ d.parts, L.piece g (f x) (f' x)) :
    L.draft ((d.map f).draft g) (((d.relabel r).map f').draft g) := by
  have name := h d.name (by simp [DropIndex.parts])
  have owner := h d.owner (by simp [DropIndex.parts])
  have behavior := h d.behavior (by simp [DropIndex.parts])
  have hguard : ((d.relabel r).map f').ifExists.holds = (d.map f).ifExists.holds :=
    r.flag_holds _
  unfold DropIndex.draft
  rw [hguard]
  refine phrase ((((drafts.word (by decide) (wordIf (by decide) _)).append name.part).append
    (owner.clause (by decide))).append ?_)
  split
  · exact behavior.part
  · exact .nil

end Statements

end Likeness

end SqlRender
