import SqlRender.Proofs.Expr.Mute
import SqlRender.Proofs.Expr.Parts

/-!
# Expressions that vanish

What a dialect has no words for may be left out of a query without a trace, and then all that
consists of it is left out too. `Node.contents` says for each node what it consists of, if it can be
left out at all. An expression vanishes if it can be left out all the way down; these are the
expressions that leave no trace, and there are no others (`Expr.isMute_draft`). What the proof has
to know of a node is one equation, `Node.isMute_draft`.
-/

namespace SqlRender

/-! ## What an expression consists of -/

namespace Expr

/-- Whether an expression is missing. -/
def isNull : Expr → Bool
  | .value .null => true
  | _ => false

/-- Whether there is nothing of an expression in a phrase, in which a text is written as it is. -/
def isUnsaid : Expr → Bool
  | .value .null => true
  | .value (.text s) => s.isEmpty
  | _ => false

/-- What a phrase of expressions consists of. -/
def said (es : List Expr) : List Expr :=
  es.filter (!·.isUnsaid)

/-- Whether an expression says that nothing is done on a conflict. -/
def doesNothing : Expr → Bool
  | .node (.conflictAction none _) => true
  | _ => false

end Expr

/-- What a node consists of, if it may leave no trace: it leaves none if these parts leave none. -/
def Node.contents (g : Grammar) : Node Expr → Option (List Expr)
  | .raw sql => if sql.isNothing then some [] else none
  | .literal ⟨.numeric, value⟩ => if (Wording.ofOutline value).isNothing then some [] else none
  | .keyword (.locking l) => if l.isMissing g then some [] else none
  | .list items _ | .template items => some items
  | .operation left operator right => some (Expr.said [left, operator, right])
  | .orderBy expression direction => some (Expr.said [expression, direction])
  | .clause _ body => some [body]
  | .column name table => if table.isNull then some [name] else none
  | .qualifiedTable table space => if space.isNull then some [table] else none
  | .excludedColumn _ => if g.upsertStyle = .unsupported then some [] else none
  | .subpath _ path => if !path.isEmpty && g.jsonAccess.isNone then some [] else none
  | .dataType kind custom =>
    if (g.ownTypeName kind).isSome then none
    else if !custom.isNull then some [custom]
    else if kind = .custom then some []
    else none
  | .columnConstraint kind expression _ =>
    if kind = .foreignKey ∨ kind = .custom then some [expression] else none
  | .constraint algorithm name => if name.isNull then some (Expr.said [algorithm]) else none
  | .columnDefinition target type constraints => some (Expr.said [target, type] ++ constraints)
  | .alterColumnType target type =>
    if g.alterTable.typeKeyword.isNone then some (Expr.said [target, type]) else none
  | .distinct items | .commonTables items | .returning items =>
    if items.isEmpty then some [] else none
  | .conflictStrategy _ action =>
    if g.upsertStyle = .onDuplicateKey && action.doesNothing then some [] else none
  | .union u =>
    if u.members.isEmpty then some (Expr.said [u.withTables, u.initial])
    else if !g.unionFeatures.has .parenthesizedMembers && u.members.all (·.length = 2) &&
      (limitOffset g u.limit u.offset).isEmpty
    then some (Expr.said (u.withTables :: u.initial :: u.members.flatten) ++ u.orderBy)
    else none
  | _ => none

/-- An expression that is left out without a trace: all that it consists of is left out so. -/
inductive Expr.Vanishes (g : Grammar) : Expr → Prop where
  | node {n : Node Expr} {xs : List Expr} :
    n.contents g = some xs → (∀ x ∈ xs, Vanishes g x) → Vanishes g (.node n)

/-! ## Parts under a condition -/

section Condition

variable {condition : Prop} [Decidable condition] {xs ys : List Expr}

theorem eq_of_contents (h : (if condition then some xs else none) = some ys) : ys = xs := by
  split at h
  · exact (Option.some.inj h).symm
  · cases h

theorem any_contents (p : List Expr → Bool) :
    (if condition then some xs else none).any p = (decide condition && p xs) := by
  split <;> simp [*]

end Condition

/-- What a node consists of is among its parts. -/
theorem Node.mem_parts_of_contents {g : Grammar} {n : Node Expr} {xs : List Expr}
    (h : n.contents g = some xs) : ∀ x ∈ xs, x ∈ n.parts := by
  have said {es es' : List Expr} (h : es ⊆ es') : ∀ x ∈ Expr.said es, x ∈ es' :=
    fun x hx => h (List.mem_filter.1 hx).1
  cases n with
  | raw _ | excludedColumn _ | subpath _ _ | conflictStrategy _ _ | distinct _ | commonTables _
  | returning _ =>
      cases eq_of_contents h
      exact List.forall_mem_nil _
  | literal l =>
      obtain ⟨kind, value⟩ := l
      cases kind with
      | numeric =>
          cases eq_of_contents h
          exact List.forall_mem_nil _
      | _ => cases h
  | keyword k =>
      cases k with
      | locking l =>
          cases eq_of_contents h
          exact List.forall_mem_nil _
      | _ => cases h
  | list items _ | template items =>
      cases h
      exact fun x hx => hx
  | clause _ _ =>
      cases h
      exact fun x hx => hx
  | operation _ _ _ | orderBy _ _ =>
      cases h
      exact said fun _ hx => hx
  | column _ _ | qualifiedTable _ _ | columnConstraint _ _ _ =>
      cases eq_of_contents h
      simp [parts]
  | dataType kind custom =>
      rw [contents] at h
      split at h
      · cases h
      · split at h
        · cases h
          exact fun x hx => hx
        · cases eq_of_contents h
          exact List.forall_mem_nil _
  | constraint _ _ | alterColumnType _ _ =>
      cases eq_of_contents h
      exact said (by simp [parts])
  | columnDefinition target type constraints =>
      cases h
      simp only [parts, List.forall_mem_append]
      exact ⟨said (by simp), by simp +contextual⟩
  | union u =>
      rw [contents] at h
      split at h
      · cases h
        exact said (by simp [parts, Union.parts])
      · cases eq_of_contents h
        simp only [parts, Union.parts, List.forall_mem_append]
        refine ⟨said fun x hx => ?_, by simp +contextual⟩
        simp only [List.mem_cons, List.mem_append] at hx ⊢
        tauto
  | _ => cases h

/-! ## Pieces of expressions -/

/-- A node is there, and is no plain text. -/
theorem Node.shape_said (g : Grammar) (n : Node Piece) :
    n.shape g ≠ .absent ∧ ∀ s, n.shape g ≠ .verbatim s := by
  unfold shape
  split <;> try split
  all_goals simp

namespace Expr

variable {g : Grammar}

/-- A node goes into a phrase as it is rendered on its own. -/
theorem part_node (n : Node Expr) : ((Expr.node n).piece g).part = [(Expr.node n).draft g] := by
  obtain ⟨hthere, hplain⟩ := Node.shape_said g (n.map (piece g))
  rw [draft, piece_node, Piece.part]
  split
  · rename_i habsent
    exact absurd habsent hthere
  · rename_i text hverbatim
    exact absurd hverbatim (hplain text)
  · rfl

theorem isMute_piece (e : Expr) : (e.piece g).isMute = (e.isUnsaid || (e.draft g).isMute) := by
  have unrenderable (typeName : String) : (Piece.unrenderable typeName).isMute = false := rfl
  cases e with
  | value v =>
      rw [draft, piece_value]
      cases v with
      | text s =>
          rw [Piece.ofValue, unrenderable, isUnsaid, Bool.or_false, Bool.eq_iff_iff]
          simp [Piece.isMute, Piece.part]
      | _ => rfl
  | sequence isTuple items => rfl
  | node n =>
      rw [Piece.isMute, part_node, List.all_cons, List.all_nil, Bool.and_true]
      rfl

theorem isAbsent_piece (e : Expr) : (e.piece g).isAbsent = e.isNull := by
  cases e with
  | value v => cases v <;> rfl
  | sequence _ _ => rfl
  | node n =>
      rw [piece_node, Piece.isAbsent]
      split
      · rename_i habsent
        exact absurd habsent (Node.shape_said g (n.map (piece g))).1
      · rfl

theorem doesNothing_piece (e : Expr) : (e.piece g).doesNothing = e.doesNothing := by
  cases e with
  | value v => cases v <;> rfl
  | sequence _ _ => rfl
  | node n =>
      rw [piece_node]
      cases n with
      | commonTable label query columns recursive =>
          show Piece.doesNothing ⟨_, if recursive.holds then _ else _, _⟩ = _
          cases recursive.holds <;> rfl
      | conflictAction assignments filter => cases assignments <;> rfl
      | _ => rfl

theorem all_isMute_said (es : List Expr) :
    (es.map (piece g)).all Piece.isMute = (said es).all fun e => (e.draft g).isMute := by
  induction es with
  | nil => rfl
  | cons e es ih =>
      rw [List.map_cons, List.all_cons, ih, isMute_piece]
      unfold said
      rw [List.filter_cons]
      cases e.isUnsaid <;> rfl

theorem all_isMute_drafts (es : List Expr) :
    (Piece.drafts (es.map (piece g))).all Draft.isMute = es.all fun e => (e.draft g).isMute := by
  rw [Piece.drafts, List.map_map, List.all_map]
  rfl

end Expr

variable {g : Grammar}

/-! ## Nodes without a trace -/

/-- A node leaves no trace exactly if what it consists of leaves none. -/
theorem Node.isMute_draft (worded : g.Worded) (n : Node Expr) :
    ((n.map (Expr.piece g)).draft g).isMute =
      (n.contents g).any fun xs => xs.all fun x => (x.draft g).isMute := by
  cases n with
  | raw sql =>
      rw [map, draft, Wording.isMute_written, contents, any_contents]
      simp
  | literal l =>
      obtain ⟨kind, value⟩ := l
      cases kind with
      | numeric =>
          rw [map, draft, Literal.draft, Wording.isMute_written, contents, any_contents]
          simp
      | _ =>
          simp [map, draft, contents, Literal.draft, Wording.isMute_quoted worded.quoteString_ne,
            worded.booleanText_ne, worded.defaultWord_ne]
  | keyword k =>
      cases k with
      | locking l =>
          rw [map, draft, keywordDraft, Draft.isMute_locking worded, contents, any_contents]
          simp
      | operator o => cases o <;> rfl
      | setOperation o => rfl
      | _ => simp [map, draft, contents, keywordDraft, Keyword.text_ne]
  | list items separator =>
      rw [map, draft, Draft.isMute_join, Expr.all_isMute_drafts]
      rfl
  | template fragments =>
      rw [map, draft, Draft.isMute_seq, Expr.all_isMute_drafts]
      rfl
  | operation left operator right =>
      rw [map, draft, Draft.isMute_phrase, Piece.isMute_parts]
      exact Expr.all_isMute_said [left, operator, right]
  | orderBy expression direction =>
      rw [map, draft, Draft.isMute_phrase, Piece.isMute_parts]
      exact Expr.all_isMute_said [expression, direction]
  | clause word body =>
      rw [map, draft, Draft.isMute_clause, contents, Option.any_some, List.all_cons, List.all_nil,
        Bool.and_true]
      rfl
  | column name table | qualifiedTable name table =>
      rw [map, draft, Draft.isMute_qualified, Expr.isAbsent_piece, contents, any_contents]
      simp [Expr.draft]
  | excludedColumn name =>
      rw [map, draft, Draft.isMute_excludedColumn, contents, any_contents]
      simp
  | subpath target path =>
      rw [map, draft, Draft.isMute_subpath, contents, any_contents]
      simp only [Bool.decide_eq_true, List.all_nil, Bool.and_true]
  | dataType kind custom =>
      rw [map, draft, Draft.isMute_dataType worded, Expr.isAbsent_piece, contents]
      cases (g.ownTypeName kind).isSome <;> cases custom.isNull <;> simp [any_contents, Expr.draft]
  | columnConstraint kind expression autoIncrement =>
      rw [map, draft, Draft.isMute_columnConstraint, contents, any_contents]
      simp [Expr.draft]
  | constraint algorithm name =>
      rw [map, draft, Draft.isMute_constraint, Expr.isAbsent_piece, contents, any_contents,
        ← Expr.all_isMute_said]
      simp
  | columnDefinition target type constraints =>
      rw [map, draft, Draft.isMute_columnDefinition, Expr.all_isMute_drafts, contents,
        Option.any_some, List.all_append, ← Expr.all_isMute_said]
      rfl
  | alterColumnType target type =>
      rw [map, draft, Draft.isMute_alterColumnType worded, contents, any_contents,
        ← Expr.all_isMute_said, Bool.decide_eq_true]
      rfl
  | distinct items | commonTables items | returning items =>
      simp only [map, draft, contents, Draft.isMute_distinct, Draft.isMute_commonTables,
        Draft.isMute_returning]
      cases items <;> rfl
  | conflictStrategy targets action =>
      rw [map, draft, Draft.isMute_conflictStrategy, Expr.doesNothing_piece, contents, any_contents]
      simp
  | union u =>
      rw [map, draft, Union.isMute_draft, contents, Union.map, List.isEmpty_map]
      split
      · exact Expr.all_isMute_said [u.withTables, u.initial]
      · have hsaid := Expr.all_isMute_said (g := g) (u.withTables :: u.initial :: u.members.flatten)
        rw [any_contents, List.all_append, ← hsaid, Expr.all_isMute_drafts, Bool.decide_eq_true]
        simp only [List.map_cons, List.map_flatten, List.all_map, Function.comp_def,
          List.length_map]
  -- all other nodes have no contents, and leave a trace
  | bind _ | insertModifier | conflictAction _ _ => simp [map, draft, contents, Piece.unrenderable]
  | identifier name => exact Wording.isMute_quoted worded.quoteIdentifier_ne name
  | enumDataType cases => exact Draft.isMute_enumDataType worded _
  | createEnum _ _ | alterEnum _ _ | dropEnum _ _ _ =>
      exact Draft.isMute_namedEnum (by decide) _
  | group _ | call _ _ | subquery _ | unionSubquery _ | case _ _ _ | tableConstraint _ _ _
  | unionJoiner _ | createTable _ | alterTable _ | insert _ | createTrigger _ =>
      simp [map, draft, contents]
  | labelled _ _ | between _ _ _ | join _ _ _ | assignment _ _ | foreignKey _ _ _ _
  | commonTable _ _ _ _ =>
      simp [map, draft, contents, Draft.labelled, Draft.between, Draft.tableJoin,
        Draft.assignment, Draft.foreignKey, Draft.commonTable]
  | dropTable _ | createIndex _ | dropIndex _ | select _ | update _ | delete _ | dropTrigger _ =>
      simp [map, draft, contents, DropTable.draft, CreateIndex.draft, DropIndex.draft,
        Select.draft, Update.draft, Delete.draft, DropTrigger.draft]

/-- An expression leaves no trace exactly if it vanishes. -/
theorem Expr.isMute_draft (worded : g.Worded) (e : Expr) :
    (e.draft g).isMute = true ↔ e.Vanishes g := by
  constructor
  · intro h
    -- down the tree: what is rendered as a value fails, so only nodes are left
    induction e using Expr.induction with
    | value v => cases v <;> cases h
    | sequence isTuple items ih => cases h
    | node n ih =>
        rw [draft_node, Node.isMute_draft worded, Option.any_eq_true] at h
        obtain ⟨xs, hxs, hall⟩ := h
        rw [List.all_eq_true] at hall
        exact .node hxs fun x hx => ih x (Node.mem_parts_of_contents hxs x hx) (hall x hx)
  · intro h
    induction h with
    | node hxs _ ih =>
        rw [draft_node, Node.isMute_draft worded, hxs, Option.any_some,
          List.all_eq_true]
        exact ih

/-- What vanishes has no text. -/
theorem Expr.Vanishes.areBlank (worded : g.Worded) {e : Expr} (h : e.Vanishes g) :
    Segment.areBlank (e.segments g) = true := by
  have hmute := (isMute_draft worded e).2 h
  rw [Draft.isMute, Bool.and_eq_true] at hmute
  exact hmute.2

/-- There is nothing of what is missing. -/
theorem Expr.segments_of_isNull {e : Expr} (h : e.isNull = true) : e.segments g = [] := by
  unfold isNull at h
  split at h
  · rfl
  · cases h

/-! ## The same in every dialect -/

/-- Whether a node consists of the same parts in every dialect. -/
def Node.isPortable : Node Expr → Bool
  | .keyword (.locking _) | .excludedColumn _ | .subpath _ _ | .dataType _ _
  | .alterColumnType _ _ | .conflictStrategy _ _ => false
  | .union u => u.members.isEmpty
  | _ => true

/-- Whether the root of an expression consists of the same parts in every dialect. -/
def Expr.isPortable : Expr → Bool
  | .node n => n.isPortable
  | _ => true

theorem Node.contents_eq_of_isPortable {n : Node Expr} (h : n.isPortable = true) (g g' : Grammar) :
    n.contents g = n.contents g' := by
  cases n with
  | literal l =>
      obtain ⟨kind, value⟩ := l
      cases kind <;> rfl
  | keyword k =>
      cases k with
      | locking l => cases h
      | _ => rfl
  | excludedColumn _ | subpath _ _ | dataType _ _ | alterColumnType _ _ | conflictStrategy _ _ =>
      cases h
  | union u =>
      rw [isPortable] at h
      rw [contents, contents, if_pos h, if_pos h]
  | _ => rfl

/-- What vanishes in one dialect vanishes in every dialect, if it is made of portable nodes. -/
theorem Expr.Vanishes.of_portable {e : Expr} (h : e.Vanishes g)
    (portable : e.Everywhere fun x => x.isPortable = true) (g' : Grammar) : e.Vanishes g' := by
  induction h with
  | node hxs _ ih =>
      obtain ⟨hnode, hparts⟩ := Everywhere.node_iff.1 portable
      exact .node (Node.contents_eq_of_isPortable hnode g' g ▸ hxs) fun x hx =>
        ih x hx (hparts x (Node.mem_parts_of_contents hxs x hx))

end SqlRender
