import SqlRender.Proofs.Likeness.Query
import SqlRender.Proofs.Likeness.Schema
import SqlRender.Proofs.Likeness.Trigger

/-!
# Trees of a kind

The main statement is `Likeness.tree`: a tree and the same tree with other labels are alike as soon
as the labels are alike where they stand. It goes down the tree once, for all likenesses and all
relabellings.
-/

namespace SqlRender

namespace Likeness

variable (L : Likeness) (g : Grammar) (r : Relabel)

section Node

variable {ε : Type}

/-- What must be known of the labels of a node so that relabelling leaves it alike. What stands
where an operator between queries should is shown in a fault, with all its labels. -/
def labels (f f' : ε → Piece) : Node ε → Prop
  | .raw sql => L.draft sql.written (r.wording sql).written
  | .identifier name =>
    L.draft (name.quoted g.quoteIdentifier) ((r.name name).quoted g.quoteIdentifier) ∧
      L.shape g (.identifier name) (.identifier (r.name name))
  | .literal l => L.draft (l.draft g) ((r.literal l).draft g)
  | .bind value => L.draft (.bind value.bound) (.bind (r.bind value).bound)
  | .keyword k => L.draft (Node.keywordDraft g k) (Node.keywordDraft g k)
  | .list _ separator =>
    Separator.Alike L.text separator.separator (r.wording separator).separator
  | .call name _ => L.draft name.written (r.wording name).written
  | .clause word _ => L.text word.display (r.wording word).display
  | .subpath _ path => L.path g path (path.map r.key)
  | .select s =>
    L.drafts (limitOffset g s.limit s.offset) (limitOffset g (r.count s.limit) (r.count s.offset))
  | .union u =>
    L.drafts (limitOffset g u.limit u.offset) (limitOffset g (r.count u.limit) (r.count u.offset))
  | .unionJoiner operator =>
    L.draft (noOperator (f operator).outline) (noOperator (f' operator).outline)
  | _ => True

variable {L} {g} {r} {f f' : ε → Piece}

section Layer

variable {n : Node ε} (h : ∀ x ∈ n.parts, L.piece g (f x) (f' x))

include h

theorem node_draft (fit : L.fits g) (hlabels : L.labels g r f f' n) :
    L.draft ((n.map f).draft g) (((n.relabel r).map f').draft g) := by
  cases n with
  | raw sql => exact hlabels
  | identifier name => exact hlabels.1
  | literal l => exact hlabels
  | bind value => exact hlabels
  | keyword k => exact hlabels
  | insertModifier => exact text_plain (by decide)
  | list items separator => exact L.of_join hlabels (pieces_map h).drafts
  | group items => exact group (pieces_map h).drafts
  | call name args => exact L.of_seq (.cons hlabels (drafts_single (group (pieces_map h).drafts)))
  | operation left operator right => exact phrase (pieces_map h).parts
  | clause word body =>
      simp only [Node.parts, List.forall_mem_singleton] at h
      exact L.of_clause hlabels h.draft
  | template fragments => exact L.of_seq (pieces_map h).drafts
  | column name table =>
      simp only [Node.parts, List.forall_mem_cons] at h
      obtain ⟨hname, htable, -⟩ := h
      exact qualified htable hname
  | qualifiedTable table space =>
      simp only [Node.parts, List.forall_mem_cons] at h
      obtain ⟨htable, hspace, -⟩ := h
      exact qualified hspace htable
  | labelled expression label =>
      simp only [Node.parts, List.forall_mem_cons] at h
      obtain ⟨hexpression, hlabel, -⟩ := h
      exact labelled hexpression hlabel
  | excludedColumn name =>
      simp only [Node.parts, List.forall_mem_singleton] at h
      exact excludedColumn h
  | subpath target path =>
      simp only [Node.parts, List.forall_mem_singleton] at h
      exact subpath h hlabels
  | between operand lower upper =>
      simp only [Node.parts, List.forall_mem_cons] at h
      obtain ⟨hoperand, hlower, hupper, -⟩ := h
      exact between hoperand hlower hupper
  | case cases operand alternative =>
      simp only [Node.parts, List.forall_mem_cons] at h
      obtain ⟨hoperand, halternative, hcases⟩ := h
      exact case (rows_map hcases) hoperand halternative
  | dataType kind custom =>
      simp only [Node.parts, List.forall_mem_singleton] at h
      exact dataType fit kind h
  | enumDataType cases => exact enumDataType fit (pieces_map h)
  | columnConstraint kind expression autoIncrement =>
      simp only [Node.parts, List.forall_mem_singleton] at h
      simp only [Node.relabel, Node.map, Node.draft, r.flag_holds]
      exact columnConstraint fit kind h _
  | tableConstraint kind columns expression =>
      simp only [Node.parts, List.forall_mem_cons] at h
      obtain ⟨hexpression, hcolumns⟩ := h
      exact tableConstraint kind (pieces_map hcolumns) hexpression
  | foreignKey table columns onDelete onUpdate =>
      simp only [Node.parts, List.forall_mem_cons] at h
      obtain ⟨htable, hdelete, hupdate, hcolumns⟩ := h
      exact foreignKey htable (pieces_map hcolumns) hdelete hupdate
  | constraint algorithm name =>
      simp only [Node.parts, List.forall_mem_cons] at h
      obtain ⟨halgorithm, hname, -⟩ := h
      exact constraint halgorithm hname
  | columnDefinition target type constraints =>
      simp only [Node.parts, List.forall_mem_cons] at h
      obtain ⟨htarget, htype, hconstraints⟩ := h
      exact columnDefinition htarget htype (pieces_map hconstraints)
  | alterColumnType target type =>
      simp only [Node.parts, List.forall_mem_cons] at h
      obtain ⟨htarget, htype, -⟩ := h
      exact alterColumnType fit htarget htype
  | createEnum name values =>
      simp only [Node.parts, List.forall_mem_cons] at h
      obtain ⟨hname, hvalues⟩ := h
      exact createEnum hname (pieces_map hvalues)
  | alterEnum name value =>
      simp only [Node.parts, List.forall_mem_cons] at h
      obtain ⟨hname, hvalue, -⟩ := h
      exact alterEnum hname hvalue
  | dropEnum name ifExists cascade =>
      simp only [Node.parts, List.forall_mem_singleton] at h
      simp only [Node.relabel, Node.map, Node.draft, r.flag_holds]
      exact dropEnum h _ _
  | distinct args => exact distinct (pieces_map h)
  | join method table condition =>
      simp only [Node.parts, List.forall_mem_cons] at h
      obtain ⟨hmethod, htable, hcondition, -⟩ := h
      exact tableJoin hmethod htable hcondition
  | orderBy expression direction => exact phrase (pieces_map h).parts
  | subquery query =>
      simp only [Node.parts, List.forall_mem_singleton] at h
      exact h.grouped
  | unionSubquery query =>
      simp only [Node.parts, List.forall_mem_singleton] at h
      exact h.grouped
  | commonTable label query columns recursive =>
      simp only [Node.parts, List.forall_mem_cons] at h
      obtain ⟨hlabel, hquery, hcolumns⟩ := h
      exact commonTable hlabel hquery (pieces_map hcolumns)
  | commonTables tables => exact commonTables (pieces_map h)
  | assignment target value =>
      simp only [Node.parts, List.forall_mem_cons] at h
      obtain ⟨htarget, hvalue, -⟩ := h
      exact assignment htarget hvalue
  | conflictAction assignments filter => exact L.of_fail _
  | conflictStrategy targets action =>
      simp only [Node.parts, List.forall_mem_cons] at h
      obtain ⟨haction, htargets⟩ := h
      exact conflictStrategy (pieces_map htargets) haction
  | returning columns => exact returning (pieces_map h)
  | unionJoiner operator =>
      simp only [Node.parts, List.forall_mem_singleton] at h
      exact unionJoiner h hlabels
  | createTable s => exact createTable h
  | alterTable s => exact alterTable fit h
  | dropTable s => exact dropTable h
  | createIndex s => exact createIndex h
  | dropIndex s => exact dropIndex h
  | select s => exact select h hlabels
  | insert s => exact insert h
  | update s => exact update h
  | delete s => exact delete h
  | union s => exact union h hlabels
  | createTrigger s => exact createTrigger h
  | dropTrigger s => exact dropTrigger h

theorem node_shape (hlabels : L.labels g r f f' n) :
    L.shape g ((n.map f).shape g) (((n.relabel r).map f').shape g) := by
  cases n with
  | identifier name => exact hlabels.2
  | keyword k => exact .keyword k
  | group items => exact .bracketed
  | subquery query => exact .bracketed
  | unionSubquery query => exact .bracketed
  | commonTable label query columns recursive =>
      simp only [Node.relabel, Node.map, Node.shape, r.flag_holds]
      split
      · exact .recursiveTable
      · exact .plain
  | conflictAction assignments filter =>
      -- the draft is a fault, and the parts are drafted by the strategy around it
      simp only [Node.parts, List.forall_mem_cons] at h
      obtain ⟨hfilter, hassignments⟩ := h
      have parts : L.conflictParts (.ofPieces (assignments.map (·.map f)) (f filter))
          (.ofPieces (assignments.map (·.map f')) (f' filter)) := by
        refine conflictParts_ofPieces ?_ hfilter
        cases assignments with
        | none => exact .none
        | some es => exact .some (pieces_map hassignments)
      exact .conflictAction parts.assignments parts.filter
  | conflictStrategy targets action =>
      simp only [Node.parts, List.forall_mem_cons] at h
      exact .conflictStrategy (asksToIgnore h.1)
  | _ => exact .plain

end Layer

/-- A node whose parts are alike and whose labels are is alike. -/
theorem node (fit : L.fits g) {n : Node ε} (h : ∀ x ∈ n.parts, L.piece g (f x) (f' x))
    (hlabels : L.labels g r f f' n) :
    L.piece g ((n.map f).piece g) (((n.relabel r).map f').piece g) where
  draft := node_draft h fit hlabels
  shape := node_shape h hlabels
  lacking _ := by cases n <;> exact L.of_fail _

/-- Labels that are left as they are, for a relation that holds of everything and itself, and in
which it does not matter which fault a draft fails with. -/
theorem labels_nothing (text : ∀ s, L.text s s) (draft : ∀ d, L.draft d d)
    (fault : ∀ f f', L.draft (.fail f) (.fail f')) (n : Node ε) : L.labels g {} f f' n := by
  have drafts (ds : List Draft) : L.drafts ds ds := List.forall₂_same.2 fun d _ => draft d
  cases n with
  | raw sql => exact draft _
  | identifier name =>
      refine ⟨draft _, ?_⟩
      cases name with
      | text s => exact .identifier (text _)
      | other o => exact .nameless rfl rfl
  | literal l => exact draft _
  | bind value => exact draft _
  | keyword k => exact draft _
  | list items separator =>
      show Separator.Alike L.text separator.separator separator.separator
      cases separator.separator with
      | text s => exact .text (text s)
      | stray typeName => exact .stray typeName
  | call name args => exact draft _
  | clause word body => exact text _
  | subpath target path =>
      show L.path g path (path.map id)
      rw [List.map_id]
      refine ⟨List.forall₂_same.2 fun key _ => draft _, ?_⟩
      cases h : Wording.texts 0 path with
      | error fault => exact .inl ⟨fault, rfl, rfl⟩
      | ok texts => exact .inr ⟨texts, texts, rfl, rfl, draft _⟩
  | select s => exact drafts _
  | union u => exact drafts _
  | unionJoiner operator =>
      show L.draft (noOperator (f operator).outline) (noOperator (f' operator).outline)
      unfold noOperator
      split <;> split <;> exact fault _ _
  | _ => trivial

end Node

/-! ## Values and trees -/

theorem ofValues (vs : List Value) : L.drafts (Piece.ofValues vs) (Piece.ofValues vs) := by
  induction vs with
  | nil => exact .nil
  | cons v vs ih =>
      refine .cons ?_ ih
      unfold Piece.ofValue
      split <;> exact L.of_fail _

variable {L} {g} in
theorem ofValue {v : Value} (h : ∀ s, v = .text s → L.text s s) :
    L.piece g (.ofValue v) (.ofValue v) := by
  unfold Piece.ofValue
  split
  · exact ⟨L.of_fail _, .absent, fun _ => L.of_fail _⟩
  · exact ⟨L.of_fail _, .verbatim (h _ rfl), fun _ => L.of_fail _⟩
  · exact ⟨L.of_fail _, .items (ofValues L _), fun _ => L.of_fail _⟩
  · exact ⟨L.of_fail _, .items (ofValues L _), fun _ => L.of_fail _⟩
  · exact ⟨L.of_fail _, .plain, fun _ => L.of_fail _⟩

/-- What must be known of the labels at the root of a tree. A text in place of an expression may be
written as it is. -/
def rootLabels : Expr → Prop
  | .value v => ∀ s, v = .text s → L.text s s
  | .sequence _ _ => True
  | .node n => L.labels g r (Expr.piece g) (fun x => (x.relabel r).piece g) n

variable {L} {g} {r} in
/-- **Trees of a kind.** A tree and the same tree with other labels are alike if the labels are
alike where they stand. -/
theorem tree (fit : L.fits g) {e : Expr} (h : e.Everywhere (L.rootLabels g r)) :
    L.piece g (e.piece g) ((e.relabel r).piece g) := by
  induction h with
  | @intro e here _ ih =>
      cases e with
      | value v =>
          rw [Expr.relabel_value, Expr.piece, Expr.fold_value]
          exact ofValue here
      | sequence isTuple items =>
          -- it cannot be rendered on its own, but its items may stand in parentheses
          have parts := (pieces_map ih).drafts
          rw [← Function.comp_def, ← List.map_map] at parts
          rw [Expr.relabel_sequence, Expr.piece_sequence, Expr.piece_sequence]
          exact ⟨L.of_fail _, .items parts, fun _ => L.of_fail _⟩
      | node n =>
          rw [Expr.relabel_node, Expr.piece_node, Expr.piece_node, Node.map_map]
          exact node fit ih here

end Likeness

end SqlRender
