import SqlRender.Proofs.Expr.Relabel
import SqlRender.Proofs.Likeness.Reference

/-!
# Queries and changes of a kind

Selection, union, common tables, insertion with its conflict strategies, update and deletion respect
every likeness.
-/

namespace SqlRender

namespace Likeness

variable {L : Likeness} {g : Grammar}

section Clauses

variable {p p' q q' r r' : Piece} {ps ps' qs qs' : List Piece}

theorem distinct (h : L.pieces g ps ps') : L.draft (.distinct ps) (.distinct ps') := by
  unfold Draft.distinct
  rw [h.isEmpty_eq]
  split
  · exact empty
  · exact phrase (drafts.word (by decide) (drafts_single (group h.drafts)))

theorem tableJoin (hp : L.piece g p p') (hq : L.piece g q q') (hr : L.piece g r r') :
    L.draft (.tableJoin p q r) (.tableJoin p' q' r') :=
  phrase ((hp.part.append (drafts.word (by decide) hq.part)).append (hr.clause (by decide)))

theorem commonTable (hp : L.piece g p p') (hq : L.piece g q q') (h : L.pieces g ps ps') :
    L.draft (.commonTable p q ps) (.commonTable p' q' ps') := by
  have hcolumns := h.groupIfAny
  have hgrouped := drafts_single hq.grouped
  have hpart := hq.part
  obtain ⟨-, hshape, -⟩ := hq
  cases q
  cases q'
  cases hshape with
  -- a query that stands in parentheses by itself gets no others
  | bracketed => exact phrase ((hp.part.append hcolumns).append (drafts.word (by decide) hpart))
  | _ => exact phrase ((hp.part.append hcolumns).append (drafts.word (by decide) hgrouped))

theorem isRecursiveTable_eq (h : L.piece g p p') : p.isRecursiveTable = p'.isRecursiveTable := by
  obtain ⟨-, hshape, -⟩ := h
  cases p
  cases p'
  cases hshape <;> rfl

theorem commonTables (h : L.pieces g ps ps') : L.draft (.commonTables ps) (.commonTables ps') := by
  have hany : ps.any Piece.isRecursiveTable = ps'.any Piece.isRecursiveTable := by
    induction h with
    | nil => rfl
    | cons hp _ ih => rw [List.any_cons, List.any_cons, isRecursiveTable_eq hp, ih]
  unfold Draft.commonTables
  rw [h.isEmpty_eq, hany]
  split
  · exact empty
  · exact phrase ((drafts.word (by decide) (wordIf (by decide) _)).append
      (drafts_single (join (by decide) h.drafts)))

theorem returning (h : L.pieces g ps ps') : L.draft (.returning g ps) (.returning g ps') := by
  unfold Draft.returning
  rw [h.isEmpty_eq]
  split
  · exact empty
  · split
    · exact phrase (drafts.word (by decide) (drafts_single (join (by decide) h.drafts)))
    · exact L.of_warn _

theorem assignment (hp : L.piece g p p') (hq : L.piece g q q') :
    L.draft (.assignment p q) (.assignment p' q') :=
  L.of_seq (.cons hp.draft (drafts.word (by decide) (drafts_single hq.draft)))

end Clauses

/-! ## Conflicts -/

section Conflicts

variable {p p' : Piece} {ps ps' : List Piece}

/-- What a conflict clause is made from, alike part by part. -/
structure conflictParts (L : Likeness) (c c' : ConflictParts) : Prop where
  assignments : Option.Rel L.drafts c.assignments c'.assignments
  filter : Option.Rel L.draft c.filter c'.filter

theorem conflictParts_ofPieces {as as' : Option (List Piece)} (h : Option.Rel (L.pieces g) as as')
    (hp : L.piece g p p') :
    L.conflictParts (.ofPieces as p) (.ofPieces as' p') := by
  constructor
  · cases h with
    | none => exact .none
    | some hpieces => exact .some hpieces.drafts
  · unfold ConflictParts.ofPieces
    rw [hp.isAbsent_eq]
    by_cases h : p'.isAbsent = true
    · simp only [h, if_true]
      exact .none
    · simp only [h]
      exact .some hp.draft

theorem conflictClause {c c' : ConflictParts} {ds ds' : List Draft} (h : L.conflictParts c c')
    (targets : L.drafts ds ds') : L.draft (c.draft g ds) (c'.draft g ds') := by
  have htargets : L.drafts (if ds.isEmpty then [] else [Draft.group ds])
      (if ds'.isEmpty then [] else [Draft.group ds']) := by
    rw [targets.isEmpty_eq]
    split
    · exact .nil
    · exact drafts_single (group targets)
  obtain ⟨assignments, filter⟩ := c
  obtain ⟨assignments', filter'⟩ := c'
  obtain ⟨hassignments, hfilter⟩ := h
  have hwhere : L.drafts (filter.toList.map (.clause "WHERE"))
      (filter'.toList.map (.clause "WHERE")) := by
    cases hfilter with
    | none => exact .nil
    | some hd => exact drafts_single (L.of_clause (L.plain (by decide)) hd)
  unfold ConflictParts.draft
  cases hassignments with
  | none =>
      simp only
      split
      · exact empty
      · exact phrase ((drafts.word (by decide) htargets).append (drafts.word (by decide) .nil))
  | some hds =>
      cases hds with
      | nil => exact L.of_fail _
      | cons hd hrest =>
          have hall := join (show Text.isPlain ", " = true by decide) (.cons hd hrest)
          simp only
          split
          · exact phrase (drafts.word (by decide) (drafts_single hall))
          · exact phrase (((drafts.word (by decide) htargets).append
              (drafts.word (by decide) (drafts_single hall))).append hwhere)

theorem conflictParts_eq (h : L.piece g p p') :
    (∃ fault fault', p.conflictParts = .error fault ∧ p'.conflictParts = .error fault' ∧
        L.draft (.fail fault) (.fail fault')) ∨
      ∃ c c', p.conflictParts = .ok c ∧ p'.conflictParts = .ok c' ∧ L.conflictParts c c' := by
  obtain ⟨-, hshape, hlacking⟩ := h
  cases p
  cases p'
  cases hshape with
  | conflictAction ha hf => exact .inr ⟨_, _, rfl, rfl, ha, hf⟩
  | _ => exact .inl ⟨_, _, rfl, rfl, hlacking .updating⟩

theorem conflictStrategy (h : L.pieces g ps ps') (hp : L.piece g p p') :
    L.draft (.conflictStrategy g ps p) (.conflictStrategy g ps' p') := by
  unfold Draft.conflictStrategy
  split
  · exact L.of_warn _
  · rcases conflictParts_eq hp with ⟨fault, fault', hc, hc', hfault⟩ | ⟨c, c', hc, hc', hparts⟩
    · rw [hc, hc']
      exact hfault
    · rw [hc, hc']
      exact conflictClause hparts h.drafts

theorem asksToIgnore (h : L.piece g p p') : L.answer (p.asksToIgnore g) (p'.asksToIgnore g) := by
  unfold Piece.asksToIgnore
  split
  · rcases conflictParts_eq h with ⟨fault, fault', hc, hc', hfault⟩ | ⟨c, c', hc, hc', hparts⟩
    · rw [hc, hc']
      exact .error hfault
    · have hupdate : c.isUpdate = c'.isUpdate := by
        obtain ⟨ha, -⟩ := hparts
        cases c
        cases c'
        cases ha <;> rfl
      rw [hc, hc', Except.map, Except.map, hupdate]
      exact .ok _
  · exact .ok false

theorem ignoresEarly (h : L.piece g p p') : L.answer p.ignoresEarly p'.ignoresEarly := by
  obtain ⟨-, hshape, hlacking⟩ := h
  cases p
  cases p'
  cases hshape with
  | absent => exact .ok false
  | conflictStrategy answer => exact answer
  | _ => exact .error (hlacking .modifying)

end Conflicts

/-! ## Operators between queries -/

section Operators

theorem setOperation (o : SetOperation) : L.draft (o.draft g) (o.draft g) := by
  have hword : Text.isPlain o.word = true := by cases o <;> decide
  unfold SetOperation.draft
  split
  · exact L.of_warn _
  · refine phrase (drafts.word hword ?_)
    split
    · exact drafts.word (by decide) .nil
    · exact wordIf (by decide) _

/-- What comes of something that is no operator between queries. -/
def noOperator (o : Outline) : Draft :=
  match o.digest with
  | .ok _ => .fail (.noSetOperation o.display)
  | .error name => .fail (.unhashable name)

theorem unionJoiner {p q : Piece} (h : L.piece g p q)
    (hfault : L.draft (noOperator p.outline) (noOperator q.outline)) :
    L.draft (.unionJoiner g p) (.unionJoiner g q) := by
  obtain ⟨-, hshape, -⟩ := h
  cases p
  cases q
  cases hshape with
  | keyword k =>
      cases k with
      | setOperation o => exact setOperation o
      | _ => exact hfault
  | _ => exact hfault

end Operators

/-! ## Statements -/

section Statements

variable {ε : Type} {f f' : ε → Piece} {r : Relabel}

theorem select {s : Select ε} (h : ∀ x ∈ s.parts, L.piece g (f x) (f' x))
    (counts : L.drafts (limitOffset g s.limit s.offset)
      (limitOffset g (r.count s.limit) (r.count s.offset))) :
    L.draft ((s.map f).draft g) (((s.relabel r).map f').draft g) := by
  have columns : L.pieces g (s.columns.map f) (s.columns.map f') :=
    pieces_map fun x hx => h x (by simp [Select.parts, hx])
  have tables : L.pieces g (s.tables.map f) (s.tables.map f') :=
    pieces_map fun x hx => h x (by simp [Select.parts, hx])
  have joins : L.pieces g (s.joins.map f) (s.joins.map f') :=
    pieces_map fun x hx => h x (by simp [Select.parts, hx])
  have groupBy : L.pieces g (s.groupBy.map f) (s.groupBy.map f') :=
    pieces_map fun x hx => h x (by simp [Select.parts, hx])
  have orderBy : L.pieces g (s.orderBy.map f) (s.orderBy.map f') :=
    pieces_map fun x hx => h x (by simp [Select.parts, hx])
  have predicate := h s.predicate (by simp [Select.parts])
  have having := h s.having (by simp [Select.parts])
  have locking := h s.locking (by simp [Select.parts])
  have distinct : L.drafts (Draft.wordIf s.distinct.holds "DISTINCT")
      (Draft.wordIf (r.flag s.distinct).holds "DISTINCT") := by
    rw [r.flag_holds]
    exact wordIf (by decide) _
  exact phrase ((((((((((drafts.word (by decide) distinct).append
    (drafts_single (join (by decide) columns.drafts))).append
    (listClause (by decide) tables.drafts)).append
    (drafts_single (join (by decide) joins.drafts))).append
    (predicate.clause (by decide))).append
    (listClause (by decide) groupBy.drafts)).append
    (having.clause (by decide))).append
    (listClause (by decide) orderBy.drafts)).append
    counts).append
    locking.part)

theorem member {p p' : Piece} (h : L.piece g p p') (parenthesized : Bool) :
    L.drafts (Union.member parenthesized p) (Union.member parenthesized p') := by
  cases parenthesized with
  | true => exact drafts_single h.grouped
  | false => exact h.part

theorem rows_map {rows : List (List ε)} (h : ∀ x ∈ rows.flatten, L.piece g (f x) (f' x)) :
    List.Forall₂ (L.pieces g) (rows.map (·.map f)) (rows.map (·.map f')) := by
  induction rows with
  | nil => exact .nil
  | cons row rows ih =>
      rw [List.flatten_cons, List.forall_mem_append] at h
      exact .cons (pieces_map h.1) (ih h.2)

theorem union {u : Union ε} (h : ∀ x ∈ u.parts, L.piece g (f x) (f' x))
    (counts : L.drafts (limitOffset g u.limit u.offset)
      (limitOffset g (r.count u.limit) (r.count u.offset))) :
    L.draft ((u.map f).draft g) (((u.relabel r).map f').draft g) := by
  have initial := h u.initial (by simp [Union.parts])
  have withTables := h u.withTables (by simp [Union.parts])
  have orderBy : L.pieces g (u.orderBy.map f) (u.orderBy.map f') :=
    pieces_map fun x hx => h x (by simp [Union.parts, hx])
  have members : List.Forall₂ (L.pieces g) (u.members.map (·.map f)) (u.members.map (·.map f')) :=
    rows_map fun x hx => h x (List.mem_cons_of_mem _ (List.mem_cons_of_mem _
      (List.mem_append_left _ hx)))
  have hempty : (u.members.map (·.map f)).isEmpty = (u.members.map (·.map f')).isEmpty := by
    cases u.members <;> rfl
  unfold Union.draft Union.relabel Union.map
  simp only
  rw [hempty]
  split
  · exact phrase (withTables.part.append initial.part)
  · rcases pairs members with ⟨fault, hps, hps'⟩ | ⟨ps, ps', hps, hps', hpairs⟩
    · rw [hps, hps']
      exact L.of_fail fault
    · rw [hps, hps']
      have joined := drafts_pairs hpairs fun a b hab =>
        hab.1.part.append (member hab.2 (g.unionFeatures.has .parenthesizedMembers))
      exact phrase ((((withTables.part.append (member initial _)).append joined).append
        (listClause (by decide) orderBy.drafts)).append counts)

theorem insert {i : Insert ε} (h : ∀ x ∈ i.parts, L.piece g (f x) (f' x)) :
    L.draft (i.map f).draft (i.map f').draft := by
  have table := h i.table (by simp [Insert.parts])
  have query := h i.query (by simp [Insert.parts])
  have strategy := h i.strategy (by simp [Insert.parts])
  have returning := h i.returning (by simp [Insert.parts])
  have columns : L.pieces g (i.columns.map f) (i.columns.map f') :=
    pieces_map fun x hx => h x (by simp [Insert.parts, hx])
  have rows : List.Forall₂ (L.pieces g) (i.rows.map (·.map f)) (i.rows.map (·.map f')) :=
    rows_map fun x hx => h x (by
      simp only [Insert.parts, List.mem_cons, List.mem_append]
      exact .inr (.inr (.inr (.inr (.inr hx)))))
  have groups : L.drafts ((i.rows.map (·.map f)).map fun row => .group (Piece.drafts row))
      ((i.rows.map (·.map f')).map fun row => .group (Piece.drafts row)) := by
    generalize i.rows.map (·.map f) = rows at rows
    generalize i.rows.map (·.map f') = rows' at rows
    induction rows with
    | nil => exact .nil
    | cons hrow _ ih => exact .cons (group hrow.drafts) ih
  have source : L.drafts (i.map f).source (i.map f').source := by
    have hempty : (i.rows.map (·.map f)).isEmpty = (i.rows.map (·.map f')).isEmpty := by
      cases i.rows <;> rfl
    unfold Insert.source Insert.map
    simp only
    rw [hempty]
    split
    · exact query.part
    · exact drafts.word (by decide) (drafts_single (join (by decide) groups))
  -- whether the early word is written is told from the strategy, before anything is
  have early : L.answer (i.map f).strategy.ignoresEarly (i.map f').strategy.ignoresEarly :=
    ignoresEarly strategy
  unfold Insert.draft
  generalize (i.map f).strategy.ignoresEarly = answer at early ⊢
  generalize (i.map f').strategy.ignoresEarly = answer' at early ⊢
  cases early with
  | error hfault => exact hfault
  | ok ignores =>
      exact phrase ((((((drafts.word (by decide) (wordIf (by decide) _)).append
        (drafts.word (by decide) table.part)).append columns.groupIfAny).append source).append
        strategy.part).append returning.part)

theorem update {u : Update ε} (h : ∀ x ∈ u.parts, L.piece g (f x) (f' x)) :
    L.draft (u.map f).draft (u.map f').draft := by
  have table := h u.table (by simp [Update.parts])
  have predicate := h u.predicate (by simp [Update.parts])
  have returning := h u.returning (by simp [Update.parts])
  have withTables := h u.withTables (by simp [Update.parts])
  have values : L.pieces g (u.values.map f) (u.values.map f') :=
    pieces_map fun x hx => h x (by simp [Update.parts, hx])
  exact phrase ((((withTables.part.append (drafts.word (by decide) table.part)).append
    (listClause (by decide) values.drafts)).append
    (predicate.clause (by decide))).append returning.part)

theorem delete {d : Delete ε} (h : ∀ x ∈ d.parts, L.piece g (f x) (f' x)) :
    L.draft (d.map f).draft (d.map f').draft := by
  have table := h d.table (by simp [Delete.parts])
  have predicate := h d.predicate (by simp [Delete.parts])
  have returning := h d.returning (by simp [Delete.parts])
  have withTables := h d.withTables (by simp [Delete.parts])
  exact phrase (((withTables.part.append (drafts.word (by decide) table.part)).append
    (predicate.clause (by decide))).append returning.part)

end Statements

end Likeness

end SqlRender
