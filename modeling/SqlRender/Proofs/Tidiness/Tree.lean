import SqlRender.Proofs.Tidiness.Query
import SqlRender.Proofs.Tidiness.Schema

/-!
# Tidy trees

A few nodes write a space of their own next to a part, and do not look whether the part has text.
Where it has none they leave a gap. A tree without gaps is tidy on every dialect with tidy words,
whatever its other nodes leave out (`Expr.isTidy_piece`); a node that leaves a gap has a space at
one of its ends.
-/

namespace SqlRender

/-- Whether there is a space of a node's own without text on both sides. -/
def Node.leavesGap : Node Piece → Bool
  | .labelled expression label => expression.draft.isBlank || label.draft.isBlank
  | .assignment target value => target.draft.isBlank || value.draft.isBlank
  | .columnConstraint kind expression _ =>
    decide (kind = .collate ∨ kind = .default) && expression.draft.isBlank
  | .tableConstraint kind _ expression => decide (kind = .foreignKey) && expression.draft.isBlank
  | .clause word body => word.display.isEmpty && !body.draft.isBlank
  | _ => false

namespace Expr

/-- Whether the root of an expression leaves a gap. -/
def leavesGap (g : Grammar) : Expr → Bool
  | .node n => (n.map (piece g)).leavesGap
  | _ => false

/-- No text at the root of an expression has a space in it, but for a separator, which has no two
in a row. -/
def Spaceless : Expr → Prop
  | .node (.list _ (.text separator)) => Text.IsSparse separator
  | e => ∀ s ∈ e.verbatim ++ e.quotedTexts, ' ' ∉ s.toList

end Expr

variable {g : Grammar}

theorem Literal.isTidy_draft (tidy : g.Tidy) {l : Literal}
    (h : (Expr.node (.literal l)).Spaceless) : (l.draft g).IsTidy := by
  obtain ⟨kind, value⟩ := l
  have plain (hkind : kind = .string ∨ kind = .numeric) :
      ∀ s, Wording.ofOutline value = .text s → ' ' ∉ s.toList := by
    intro s hs
    obtain rfl := Wording.eq_of_ofOutline hs
    rcases hkind with rfl | rfl
    · exact h s (by simp [Expr.verbatim, Expr.quotedTexts])
    · exact h s (by simp [Expr.verbatim, Expr.quotedTexts])
  cases kind with
  | string => exact Wording.isTidy_quoted tidy.quoteString (plain (.inl rfl))
  | numeric => exact Wording.isTidy_written (plain (.inr rfl))
  | boolean => exact .text (tidy.booleanText _)
  | null => exact .text (by decide)
  | all => exact .text (by decide)
  | default => exact .text tidy.defaultWord

/-- A node with tidy parts that leaves no gap is tidy. -/
theorem Node.isTidy_draft (tidy : g.Tidy) {n : Node Expr}
    (h : ∀ x ∈ n.parts, (x.piece g).IsTidy) (labels : (Expr.node n).Spaceless)
    (full : (n.map (Expr.piece g)).leavesGap = false) :
    ((n.map (Expr.piece g)).draft g).IsTidy := by
  have parts : ∀ p ∈ (n.map (Expr.piece g)).parts, p.IsTidy := by
    rw [Node.parts_map]
    exact List.forall_mem_map.2 h
  clear h
  cases n with
  | raw sql =>
      refine Wording.isTidy_written fun s hs => ?_
      subst hs
      exact labels s (by simp [Expr.verbatim])
  | identifier name =>
      refine Wording.isTidy_quoted tidy.quoteIdentifier fun s hs => ?_
      subst hs
      exact labels s (by simp [Expr.quotedTexts])
  | literal l => exact Literal.isTidy_draft tidy labels
  | bind value => exact .bind _
  | keyword k => exact isTidy_keywordDraft tidy k
  | insertModifier => exact .text (by decide)
  | list items separator =>
      refine .join ?_ (Piece.allTidy_drafts parts)
      cases separator with
      | text s => exact labels
      | other o =>
          have nothing : Text.IsSparse "" := by decide
          rw [Wording.separator]
          split <;> exact nothing
  | group items => exact .group (Piece.allTidy_drafts parts)
  | call name args =>
      have named : name.written.IsTidy := by
        refine Wording.isTidy_written fun s hs => ?_
        subst hs
        exact labels s (by simp [Expr.verbatim])
      exact .seq (.cons named (.single (.group (Piece.allTidy_drafts parts))))
  | operation left operator right => exact .phrase (Piece.allTidy_parts parts)
  | clause word body =>
      simp only [map, Node.parts, List.forall_mem_singleton] at parts
      simp only [map, leavesGap, Bool.and_eq_false_iff, Bool.not_eq_false'] at full
      rcases full with hword | hbody
      · exact .clause (Text.isTidy_of_not_mem (labels _ (by simp [Expr.verbatim])))
          (by simpa using hword) parts.draft
      · exact .of_isBlank (by rw [map, draft, Draft.isBlank_clause, hbody])
  | template fragments => exact .seq (Piece.allTidy_drafts parts)
  | column name table =>
      simp only [map, Node.parts, List.forall_mem_cons] at parts
      obtain ⟨hname, htable, -⟩ := parts
      exact Draft.isTidy_qualified htable hname
  | qualifiedTable table space =>
      simp only [map, Node.parts, List.forall_mem_cons] at parts
      obtain ⟨htable, hspace, -⟩ := parts
      exact Draft.isTidy_qualified hspace htable
  | labelled expression label =>
      simp only [map, Node.parts, List.forall_mem_cons] at parts
      obtain ⟨hexpression, hlabel, -⟩ := parts
      simp only [map, leavesGap, Bool.or_eq_false_iff] at full
      exact .around hexpression.draft full.1 hlabel.draft full.2 (by decide)
  | excludedColumn name =>
      simp only [map, Node.parts, List.forall_mem_singleton] at parts
      exact Draft.isTidy_excludedColumn parts
  | subpath target path =>
      simp only [map, Node.parts, List.forall_mem_singleton] at parts
      exact Draft.isTidy_subpath tidy parts labels
  | between operand lower upper =>
      simp only [map, Node.parts, List.forall_mem_cons] at parts
      obtain ⟨hoperand, hlower, hupper, -⟩ := parts
      exact Draft.isTidy_between hoperand hlower hupper
  | case cases operand alternative =>
      simp only [map, Node.parts, List.forall_mem_cons] at parts
      obtain ⟨hoperand, halternative, hcases⟩ := parts
      exact Draft.isTidy_case hcases hoperand halternative
  | dataType kind custom =>
      simp only [map, Node.parts, List.forall_mem_singleton] at parts
      exact Draft.isTidy_dataType tidy kind parts
  | enumDataType cases => exact Draft.isTidy_enumDataType tidy parts
  | columnConstraint kind expression autoIncrement =>
      simp only [map, Node.parts, List.forall_mem_singleton] at parts
      refine Draft.isTidy_columnConstraint tidy kind parts _ fun hkind => ?_
      simpa [map, leavesGap, hkind] using full
  | tableConstraint kind columns expression =>
      simp only [map, Node.parts, List.forall_mem_cons] at parts
      refine Draft.isTidy_tableConstraint kind parts.2 parts.1 fun hkind => ?_
      simpa [map, leavesGap, hkind] using full
  | foreignKey table columns onDelete onUpdate =>
      simp only [map, Node.parts, List.forall_mem_cons] at parts
      obtain ⟨htable, hdelete, hupdate, hcolumns⟩ := parts
      exact Draft.isTidy_foreignKey htable hcolumns hdelete hupdate
  | constraint algorithm name =>
      simp only [map, Node.parts, List.forall_mem_cons] at parts
      obtain ⟨halgorithm, hname, -⟩ := parts
      exact Draft.isTidy_constraint tidy halgorithm hname
  | columnDefinition target type constraints =>
      simp only [map, Node.parts, List.forall_mem_cons] at parts
      obtain ⟨htarget, htype, hconstraints⟩ := parts
      exact Draft.isTidy_columnDefinition htarget htype hconstraints
  | alterColumnType target type =>
      simp only [map, Node.parts, List.forall_mem_cons] at parts
      obtain ⟨htarget, htype, -⟩ := parts
      exact Draft.isTidy_alterColumnType tidy htarget htype
  | createEnum name values =>
      simp only [map, Node.parts, List.forall_mem_cons] at parts
      exact Draft.isTidy_createEnum parts.1 parts.2
  | alterEnum name value =>
      simp only [map, Node.parts, List.forall_mem_cons] at parts
      obtain ⟨hname, hvalue, -⟩ := parts
      exact Draft.isTidy_alterEnum hname hvalue
  | dropEnum name ifExists cascade =>
      simp only [map, Node.parts, List.forall_mem_singleton] at parts
      exact Draft.isTidy_dropEnum parts _ _
  | distinct args => exact Draft.isTidy_distinct parts
  | join method table condition =>
      simp only [map, Node.parts, List.forall_mem_cons] at parts
      obtain ⟨hmethod, htable, hcondition, -⟩ := parts
      exact Draft.isTidy_tableJoin hmethod htable hcondition
  | orderBy expression direction => exact .phrase (Piece.allTidy_parts parts)
  | subquery query =>
      simp only [map, Node.parts, List.forall_mem_singleton] at parts
      exact parts.grouped
  | unionSubquery query =>
      simp only [map, Node.parts, List.forall_mem_singleton] at parts
      exact parts.grouped
  | commonTable label query columns recursive =>
      simp only [map, Node.parts, List.forall_mem_cons] at parts
      obtain ⟨hlabel, hquery, hcolumns⟩ := parts
      exact Draft.isTidy_commonTable hlabel hquery hcolumns
  | commonTables tables => exact Draft.isTidy_commonTables parts
  | assignment target value =>
      simp only [map, Node.parts, List.forall_mem_cons] at parts
      obtain ⟨htarget, hvalue, -⟩ := parts
      simp only [map, leavesGap, Bool.or_eq_false_iff] at full
      exact .around htarget.draft full.1 hvalue.draft full.2 (by decide)
  | conflictAction assignments filter => exact .fail _
  | conflictStrategy targets action =>
      simp only [map, Node.parts, List.forall_mem_cons] at parts
      exact Draft.isTidy_conflictStrategy parts.2 parts.1
  | returning columns => exact Draft.isTidy_returning parts
  | unionJoiner operator => exact Draft.isTidy_unionJoiner
  | createTable s => exact CreateTable.isTidy_draft parts
  | alterTable s => exact AlterTable.isTidy_draft tidy parts
  | dropTable s => exact DropTable.isTidy_draft parts
  | createIndex s => exact CreateIndex.isTidy_draft parts
  | dropIndex s => exact DropIndex.isTidy_draft parts
  | select s =>
      exact Select.isTidy_draft parts (Draft.allTidy_limitOffset tidy fun n hn =>
        labels n (List.mem_append_left _ hn))
  | insert s => exact Insert.isTidy_draft parts
  | update s => exact Update.isTidy_draft parts
  | delete s => exact Delete.isTidy_draft parts
  | union s =>
      exact Union.isTidy_draft parts (Draft.allTidy_limitOffset tidy fun n hn =>
        labels n (List.mem_append_left _ hn))
  | createTrigger s => exact CreateTrigger.isTidy_draft parts
  | dropTrigger s => exact DropTrigger.isTidy_draft parts

theorem Node.isTidy_shape {n : Node Expr} (h : ∀ x ∈ n.parts, (x.piece g).IsTidy)
    (labels : (Expr.node n).Spaceless) : ((n.map (Expr.piece g)).shape g).IsTidy := by
  cases n with
  | identifier name =>
      cases name with
      | text s => exact labels s (by simp [Expr.verbatim, Expr.quotedTexts])
      | other o => trivial
  | commonTable label query columns recursive =>
      show Shape.IsTidy (if recursive.holds then .recursiveTable else .plain)
      split <;> trivial
  | conflictAction assignments filter =>
      simp only [Node.parts, List.forall_mem_cons] at h
      refine ConflictParts.isTidy_ofPieces ?_ h.1
      cases assignments with
      | none => exact List.forall_mem_nil _
      | some es => exact List.forall_mem_map.2 h.2
  | _ => trivial

/-- A node that leaves a gap has a space at one end. -/
theorem Node.isFrayed_draft {n : Node Piece} (h : n.leavesGap = true) : (n.draft g).IsFrayed := by
  have frayed {p q : Piece} {word : String} (start : word.toList.head? = some ' ')
      (finish : word.toList.getLast? = some ' ')
      (blank : p.draft.isBlank = true ∨ q.draft.isBlank = true) :
      (Draft.seq [p.draft, .text word, q.draft]).IsFrayed := by
    rcases blank with hp | hq
    · exact @Draft.IsFrayed.start [p.draft] [q.draft] word (by simp [hp]) start
    · exact @Draft.IsFrayed.finish [p.draft] [q.draft] word (by simp [hq]) finish
  cases n with
  | labelled expression label =>
      rw [leavesGap, Bool.or_eq_true] at h
      exact frayed (by decide) (by decide) h
  | assignment target value =>
      rw [leavesGap, Bool.or_eq_true] at h
      exact frayed (by decide) (by decide) h
  | columnConstraint kind expression autoIncrement =>
      rw [leavesGap, Bool.and_eq_true, decide_eq_true_iff] at h
      obtain ⟨rfl | rfl, hblank⟩ := h
      · exact @Draft.IsFrayed.finish [] [expression.draft] "COLLATE " (by simp [hblank]) (by decide)
      · exact @Draft.IsFrayed.finish [] [expression.draft] "DEFAULT " (by simp [hblank]) (by decide)
  | tableConstraint kind columns expression =>
      rw [leavesGap, Bool.and_eq_true, decide_eq_true_iff] at h
      obtain ⟨rfl, hblank⟩ := h
      exact @Draft.IsFrayed.finish [.text "FOREIGN KEY ", .group (Piece.drafts columns)]
        [expression.draft] " " (by simp [hblank]) (by decide)
  | clause word body =>
      rw [leavesGap, Bool.and_eq_true, Bool.not_eq_true', String.isEmpty_iff] at h
      have full : ¬ Segment.areBlank body.draft.segments = true := ne_true_of_eq_false h.2
      have hsegments : (Draft.clause word.display body.draft).segments =
          [] ++ .text " " :: body.draft.segments := by
        rw [Draft.segments, if_neg full, h.1]
        rfl
      rw [draft, Draft.IsFrayed, hsegments]
      exact .start rfl (by decide)
  | _ => cases h

theorem Expr.isFrayed_draft {e : Expr} (h : e.leavesGap g = true) : (e.draft g).IsFrayed := by
  cases e with
  | value v => cases h
  | sequence isTuple items => cases h
  | node n =>
      rw [draft_node]
      exact Node.isFrayed_draft h

/-- **Trees without gaps.** If no text in a tree has a space in it and no node leaves a gap, the
tree has no stray spaces, even if parts of it have no text on the dialect. -/
theorem Expr.isTidy_piece (tidy : g.Tidy) {e : Expr} (spaceless : e.Everywhere Spaceless)
    (full : e.Everywhere fun x => x.leavesGap g = false) : (e.piece g).IsTidy := by
  induction spaceless with
  | @intro e here _ ih =>
      have below : ∀ x ∈ e.parts, (x.piece g).IsTidy := fun x hx => ih x hx (full.inside x hx)
      cases e with
      | value v =>
          rw [piece_value]
          refine Piece.isTidy_ofValue fun s hs => ?_
          subst hs
          exact Text.isTidy_of_not_mem (here s (by simp [verbatim, quotedTexts]))
      | sequence isTuple items =>
          rw [piece_sequence]
          exact ⟨Piece.isTidy_unrenderable _, Piece.allTidy_drafts (List.forall_mem_map.2 below)⟩
      | node n =>
          rw [piece_node]
          exact ⟨Node.isTidy_draft tidy below here full.here, Node.isTidy_shape below here⟩

end SqlRender
