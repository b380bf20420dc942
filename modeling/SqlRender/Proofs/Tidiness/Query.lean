import SqlRender.Proofs.Expr.Parts
import SqlRender.Proofs.Tidiness.Basic

/-!
# Tidy queries

Selection, union, common tables, insertion with its conflict strategies, update and deletion that
are made from tidy parts are tidy.
-/

namespace SqlRender

variable {g : Grammar}

namespace Draft

variable {p q r : Piece} {ps : List Piece}

/-! ## Clauses -/

theorem isTidy_distinct (h : ∀ p ∈ ps, p.IsTidy) : (distinct ps).IsTidy := by
  unfold distinct
  split
  · exact .empty
  · exact .phrase (.word (by decide) (.single (.group (Piece.allTidy_drafts h))))

theorem isTidy_tableJoin (hp : p.IsTidy) (hq : q.IsTidy) (hr : r.IsTidy) :
    (tableJoin p q r).IsTidy :=
  .phrase ((hp.part.append (.word (by decide) hq.part)).append
    (hr.clause (by decide) (by decide)))

theorem isTidy_commonTable (hp : p.IsTidy) (hq : q.IsTidy) (h : ∀ p ∈ ps, p.IsTidy) :
    (commonTable p q ps).IsTidy := by
  have headed {body : List Draft} (hbody : AllTidy body) := AllTidy.append
    (hp.part.append (Piece.allTidy_groupIfAny h)) (AllTidy.word (s := "AS") (by decide) hbody)
  unfold commonTable
  split
  · exact .phrase (headed hq.part)
  · exact .phrase (headed (.single hq.grouped))

theorem isTidy_commonTables (h : ∀ p ∈ ps, p.IsTidy) : (commonTables ps).IsTidy := by
  unfold commonTables
  split
  · exact .empty
  · exact .phrase ((AllTidy.word (by decide) (.wordIf (by decide) _)).append
      (.single (.join (by decide) (Piece.allTidy_drafts h))))

theorem isTidy_returning (h : ∀ p ∈ ps, p.IsTidy) : (returning g ps).IsTidy := by
  unfold returning
  split
  · exact .empty
  split
  · exact .phrase (.word (by decide) (.single (.join (by decide) (Piece.allTidy_drafts h))))
  · exact .warn _

theorem allTidy_limitOffset (tidy : g.Tidy) {limit offset : Outline}
    (h : ∀ s ∈ limit.countText ++ offset.countText, ' ' ∉ s.toList) :
    AllTidy (limitOffset g limit offset) := by
  rw [List.forall_mem_append] at h
  have count {o : Outline} {n : String} (hn : n ∈ o.countText ∨ ∃ i : Int, n = toString i)
      (h : ∀ s ∈ o.countText, ' ' ∉ s.toList) : AllTidy [.text n] := by
    refine .single (.text (Text.isTidy_of_not_mem ?_))
    rcases hn with hshown | ⟨i, rfl⟩
    · exact h n hshown
    · exact Text.not_mem_intToString (by decide) (by decide) i
  unfold limitOffset
  refine AllTidy.append ?_ ?_
  · split
    · rename_i hn
      exact .word (by decide) (count (Outline.mem_countText_or_number hn) h.1)
    · split
      · rename_i hn
        exact .word (by decide) (.single (.text (tidy.offsetWithoutLimit hn)))
      · exact .nil
  · split
    · rename_i hn
      exact .word (by decide) (count (Outline.mem_countText_or_number hn) h.2)
    · exact .nil

/-! ## Conflicts -/

theorem isTidy_conflictParts {c : ConflictParts} (h : c.IsTidy) {targets : List Draft}
    (htargets : AllTidy targets) : (c.draft g targets).IsTidy := by
  have named : AllTidy (if targets.isEmpty then [] else [.group targets]) :=
    .ite .nil (.single (.group htargets))
  have filtered : AllTidy (c.filter.toList.map (.clause "WHERE")) :=
    List.forall_mem_map.2 fun d hd =>
      .clause (by decide) (by decide) (h.filter d (Option.mem_toList.1 hd))
  unfold ConflictParts.draft
  split
  · exact .fail _
  · rename_i assignments _ hassignments
    have joined : IsTidy (.join ", " assignments) :=
      .join (by decide) (h.assignments _ hassignments)
    split
    · exact .phrase (.word (by decide) (.single joined))
    · exact .phrase (((AllTidy.word (by decide) named).append
        (.word (by decide) (.single joined))).append filtered)
  · split
    · exact .empty
    · exact .phrase ((AllTidy.word (by decide) named).append (.word (by decide) .nil))

theorem isTidy_conflictStrategy (h : ∀ p ∈ ps, p.IsTidy) (hp : p.IsTidy) :
    (conflictStrategy g ps p).IsTidy := by
  have hshape := hp.shape
  unfold conflictStrategy Piece.conflictParts
  split
  · exact .warn _
  · split
    · rename_i parts hparts
      split at hparts
      · rename_i heq
        cases hparts
        rw [heq] at hshape
        exact isTidy_conflictParts hshape (Piece.allTidy_drafts h)
      · cases hparts
    · exact .fail _

/-! ## Operators between queries -/

theorem isTidy_setOperation (o : SetOperation) : (o.draft g).IsTidy := by
  unfold SetOperation.draft
  split
  · exact .warn _
  · exact .phrase (.word (by cases o <;> decide)
      (.ite (.word (by decide) .nil) (.wordIf (by decide) _)))

theorem isTidy_unionJoiner : (unionJoiner g p).IsTidy := by
  unfold unionJoiner
  split
  · exact isTidy_setOperation _
  · split
    · exact .fail _
    · exact .fail _

end Draft

open Draft (AllTidy)

theorem ConflictParts.isTidy_ofPieces {assignments : Option (List Piece)}
    (h : ∀ p ∈ assignments.getD [], p.IsTidy) (hp : p.IsTidy) :
    (ConflictParts.ofPieces assignments p).IsTidy where
  assignments := by
    cases assignments with
    | none => simp [ConflictParts.ofPieces]
    | some ps => simpa [ConflictParts.ofPieces] using Piece.allTidy_drafts h
  filter := by
    unfold ConflictParts.ofPieces
    cases p.isAbsent with
    | true => simp
    | false => simpa using hp.draft

/-! ## Statements -/

theorem Select.isTidy_draft {s : Select Piece} (h : ∀ p ∈ s.parts, p.IsTidy)
    (counts : AllTidy (limitOffset g s.limit s.offset)) : (s.draft g).IsTidy := by
  simp only [parts, List.forall_mem_cons, List.forall_mem_append] at h
  obtain ⟨predicate, having, locking, ⟨⟨⟨columns, tables⟩, joins⟩, groupBy⟩, orderBy⟩ := h
  exact .phrase ((((((((((AllTidy.word (by decide) (.wordIf (by decide) _)).append
    (.single (.join (by decide) (Piece.allTidy_drafts columns)))).append
    (.listClause (by decide) (by decide) (Piece.allTidy_drafts tables))).append
    (.single (.join (by decide) (Piece.allTidy_drafts joins)))).append
    (predicate.clause (by decide) (by decide))).append
    (.listClause (by decide) (by decide) (Piece.allTidy_drafts groupBy))).append
    (having.clause (by decide) (by decide))).append
    (.listClause (by decide) (by decide) (Piece.allTidy_drafts orderBy))).append
    counts).append
    locking.part)

theorem Insert.isTidy_draft {i : Insert Piece} (h : ∀ p ∈ i.parts, p.IsTidy) :
    i.draft.IsTidy := by
  simp only [parts, List.forall_mem_cons, List.forall_mem_append] at h
  obtain ⟨table, query, strategy, returning, columns, rows⟩ := h
  have groups : AllTidy (i.rows.map fun row => .group (Piece.drafts row)) :=
    List.forall_mem_map.2 fun row hrow => .group (Piece.allTidy_drafts fun p hp =>
      rows p (List.mem_flatten_of_mem hrow hp))
  have source : AllTidy i.source :=
    .ite query.part (.word (by decide) (.single (.join (by decide) groups)))
  unfold draft
  split
  · exact .fail _
  · exact .phrase ((((((AllTidy.word (by decide) (.wordIf (by decide) _)).append
      (.word (by decide) table.part)).append (Piece.allTidy_groupIfAny columns)).append
      source).append strategy.part).append returning.part)

theorem Update.isTidy_draft {u : Update Piece} (h : ∀ p ∈ u.parts, p.IsTidy) :
    u.draft.IsTidy := by
  simp only [parts, List.forall_mem_cons] at h
  obtain ⟨table, predicate, returning, withTables, values⟩ := h
  exact .phrase ((((withTables.part.append (.word (by decide) table.part)).append
    (.listClause (by decide) (by decide) (Piece.allTidy_drafts values))).append
    (predicate.clause (by decide) (by decide))).append returning.part)

theorem Delete.isTidy_draft {d : Delete Piece} (h : ∀ p ∈ d.parts, p.IsTidy) :
    d.draft.IsTidy := by
  simp only [parts, List.forall_mem_cons] at h
  obtain ⟨table, predicate, returning, withTables, -⟩ := h
  exact .phrase (((withTables.part.append (.word (by decide) table.part)).append
    (predicate.clause (by decide) (by decide))).append returning.part)

theorem Union.isTidy_draft {u : Union Piece} (h : ∀ p ∈ u.parts, p.IsTidy)
    (counts : AllTidy (limitOffset g u.limit u.offset)) : (u.draft g).IsTidy := by
  simp only [parts, List.forall_mem_cons, List.forall_mem_append] at h
  obtain ⟨initial, withTables, members, orderBy⟩ := h
  have member {p : Piece} (hp : p.IsTidy) (parenthesized : Bool) :
      AllTidy (member parenthesized p) := .ite (.single hp.grouped) hp.part
  unfold draft
  split
  · exact .phrase (withTables.part.append initial.part)
  split
  · exact .fail _
  · rename_i pairs hpairs
    have joined : AllTidy (pairs.flatMap fun p =>
        p.1.part ++ Union.member (g.unionFeatures.has .parenthesizedMembers) p.2) := by
      intro d hd
      obtain ⟨pair, hpair, hmem⟩ := List.mem_flatMap.1 hd
      obtain ⟨hoperator, hquery⟩ := Piece.forall_mem_pairs hpairs members pair hpair
      exact (hoperator.part.append (member hquery _)) d hmem
    exact .phrase ((((withTables.part.append (member initial _)).append joined).append
      (.listClause (by decide) (by decide) (Piece.allTidy_drafts orderBy))).append counts)

end SqlRender
