import SqlRender.Proofs.Expr.Parts
import SqlRender.Proofs.Render.Spacing
import SqlRender.Proofs.Render.Success
import SqlRender.Proofs.Text.Plain

/-!
# Unions with a limit

A limit may be set on the last member of a union or on the union itself, and with it an ordering and
an offset. `LimitedUnion` is a union for which this is left open. What is written for it either way
is made of the same parts: those that move with the limit, those that stand between the two places,
and the limit that a dialect puts before an offset that is on its own. They only come in another
order (`LimitedUnion.segments_onMember` and `LimitedUnion.segments_onUnion`).
-/

namespace SqlRender

/-- A part that one union has on its last member and another one on itself, or that both have in the
same places. -/
inductive Placed (α : Type) where
  | moved (part : α)
  | kept (inner outer : α)

namespace Placed

variable {α : Type} [Inhabited α]

/-- The part that moves. -/
def moving : Placed α → α
  | .moved part => part
  | .kept _ _ => default

/-- What the member has in any case. -/
def inner : Placed α → α
  | .moved _ => default
  | .kept inner _ => inner

/-- What the union has in any case. -/
def outer : Placed α → α
  | .moved _ => default
  | .kept _ outer => outer

/-- What the member has if the part moves there. -/
def onInner : Placed α → α
  | .moved part => part
  | .kept inner _ => inner

/-- What the union has if the part moves there. -/
def onOuter : Placed α → α
  | .moved part => part
  | .kept _ outer => outer

variable {β : Type} {f : α → List β}

/-- Where a part moves to the member nothing else is there. -/
theorem onInner_eq (h : f default = []) (p : Placed α) :
    f p.onInner = f p.inner ++ f p.moving ∧ f p.onInner = f p.moving ++ f p.inner := by
  cases p <;> simp [onInner, inner, moving, h]

theorem onOuter_eq (h : f default = []) (p : Placed α) :
    f p.onOuter = f p.outer ++ f p.moving ∧ f p.onOuter = f p.moving ++ f p.outer := by
  cases p <;> simp [onOuter, outer, moving, h]

end Placed

/-- An order of rows, how many are given and how many are skipped. -/
structure Window where
  ordering : List Expr
  limit : Option Int
  offset : Option Int

/-- A number of rows, if it is given. -/
def Window.count (n : Option Int) : Outline :=
  n.elim (.value .null) fun n => .value (.int n)

/-- A union for which it is open whether a limit is set on its last member or on itself. The window
of the last member does not count. -/
structure LimitedUnion where
  withTables : Expr := .absent
  initial : Expr
  /-- Operators and members before the last. -/
  before : List (Expr × Expr) := []
  operation : Expr
  last : Select Expr
  limit : Int
  ordering : Placed (List Expr) := .kept [] []
  offset : Placed (Option Int) := .kept none none

namespace LimitedUnion

/-- The last member with a window on it. -/
def member (u : LimitedUnion) (inner : Window) : Expr :=
  .node (.select
    { u.last with
      orderBy := inner.ordering
      limit := Window.count inner.limit
      offset := Window.count inner.offset })

/-- The union with a window on its last member and one on itself. -/
def within (u : LimitedUnion) (inner outer : Window) : Expr :=
  .node (.union
    { initial := u.initial
      members := u.before.map (fun p => [p.1, p.2]) ++ [[u.operation, u.member inner]]
      orderBy := outer.ordering
      limit := Window.count outer.limit
      offset := Window.count outer.offset
      withTables := u.withTables })

/-- The union with the limit on its last member. -/
def onMember (u : LimitedUnion) : Expr :=
  u.within ⟨u.ordering.onInner, some u.limit, u.offset.onInner⟩
    ⟨u.ordering.outer, none, u.offset.outer⟩

/-- The union with the limit on itself. -/
def onUnion (u : LimitedUnion) : Expr :=
  u.within ⟨u.ordering.inner, none, u.offset.inner⟩
    ⟨u.ordering.onOuter, some u.limit, u.offset.onOuter⟩

/-! ## Drafts -/

variable (g : Grammar) (u : LimitedUnion)

/-- The clause for an order of rows. -/
def orderClause (ordering : List Expr) : List Draft :=
  Draft.listClause "ORDER BY" (Piece.drafts (ordering.map (Expr.piece g)))

/-- The words for a limit. -/
def limitWords (n : String) : List Draft :=
  [.text "LIMIT", .text n]

/-- The words for an offset, if it is given. -/
def offsetWords : Option Int → List Draft
  | none => []
  | some n => [.text "OFFSET", .text (toString n)]

/-- The words for the limit that an offset gets if it has none. -/
def standInWords : Option Int → List Draft
  | none => []
  | some _ => g.offsetWithoutLimit.elim [] limitWords

/-- The drafts for a window. -/
def windowDrafts (w : Window) : List Draft :=
  orderClause g w.ordering ++ limitOffset g (Window.count w.limit) (Window.count w.offset)

theorem limitOffset_some (n : Int) (offset : Option Int) :
    limitOffset g (Window.count (some n)) (Window.count offset) =
      limitWords (toString n) ++ offsetWords offset := by
  cases offset <;> rfl

theorem limitOffset_none (offset : Option Int) :
    limitOffset g (Window.count none) (Window.count offset) =
      standInWords g offset ++ offsetWords offset := by
  cases offset with
  | none => rfl
  | some n =>
      unfold limitOffset standInWords
      cases g.offsetWithoutLimit <;> rfl

/-- What comes before the last member. -/
def earlier : List Draft :=
  (u.withTables.piece g).part ++
    Union.member (g.unionFeatures.has .parenthesizedMembers) (u.initial.piece g) ++
    (u.before.flatMap fun p => (p.1.piece g).part ++
      Union.member (g.unionFeatures.has .parenthesizedMembers) (p.2.piece g)) ++
    (u.operation.piece g).part

/-- The last member up to its window. -/
def chosen : List Draft :=
  .text "SELECT" :: Draft.wordIf u.last.distinct.holds "DISTINCT" ++
    [.join ", " (Piece.drafts (u.last.columns.map (Expr.piece g)))] ++
    Draft.listClause "FROM" (Piece.drafts (u.last.tables.map (Expr.piece g))) ++
    [.join " " (Piece.drafts (u.last.joins.map (Expr.piece g)))] ++
    (u.last.predicate.piece g).clause "WHERE" ++
    Draft.listClause "GROUP BY" (Piece.drafts (u.last.groupBy.map (Expr.piece g))) ++
    (u.last.having.piece g).clause "HAVING"

/-- The lock of the last member. -/
def lock : List Draft :=
  (u.last.locking.piece g).part

/-- A member as the dialect has it. -/
def asMember (d : Draft) : Draft :=
  if g.unionFeatures.has .parenthesizedMembers then .group [d] else d

theorem pairs_before (before : List (Expr × Expr)) (operation last : Expr) :
    Piece.pairs ((before.map (fun p => [p.1, p.2]) ++ [[operation, last]]).map
        (·.map (Expr.piece g))) =
      .ok (before.map (fun p => (p.1.piece g, p.2.piece g)) ++
        [(operation.piece g, last.piece g)]) := by
  have hlisted : before.map (fun p => [p.1, p.2]) ++ [[operation, last]] =
      (before ++ [(operation, last)]).map fun p => [p.1, p.2] := by
    rw [List.map_append]
    rfl
  rw [hlisted, List.map_map]
  refine (Piece.pairs_map (fun p : Expr × Expr => p.1.piece g) (fun p => p.2.piece g) _).trans ?_
  rw [List.map_append]
  rfl

/-- The whole union as a phrase. -/
theorem draft_within (inner outer : Window) :
    (u.within inner outer).draft g =
      .phrase (u.earlier g ++
        asMember g (.phrase (u.chosen g ++ windowDrafts g inner ++ u.lock g)) ::
          windowDrafts g outer) := by
  have members : ((u.before.map (fun p => [p.1, p.2]) ++ [[u.operation, u.member inner]]).map
      (·.map (Expr.piece g))).isEmpty = false := by
    simp
  have single : Union.member (g.unionFeatures.has .parenthesizedMembers)
      ((u.member inner).piece g) = [asMember g ((u.member inner).draft g)] := by
    unfold asMember
    cases g.unionFeatures.has .parenthesizedMembers <;> rfl
  have hmember : (u.member inner).draft g =
      .phrase (u.chosen g ++ windowDrafts g inner ++ u.lock g) := by
    rw [member, Expr.draft_node]
    show Select.draft g (Select.map (Expr.piece g) _) = _
    simp only [Select.draft, Select.map, chosen, windowDrafts, orderClause, lock,
      List.append_assoc, List.cons_append]
  rw [within, Expr.draft_node]
  show Union.draft g (Union.map (Expr.piece g) _) = _
  rw [Union.draft, Union.map, members, pairs_before]
  simp only [Bool.false_eq_true, if_false, List.flatMap_append, List.flatMap_map,
    List.flatMap_singleton, single, hmember]
  simp only [earlier, windowDrafts, orderClause, List.append_assoc, List.cons_append,
    List.nil_append]

/-! ## What is written -/

theorem spaced_limitWords {n : String} (h : n ≠ "") :
    Draft.spaced (limitWords n) = [.text " ", .text "LIMIT", .text " ", .text n] :=
  Draft.spaced_words (by decide) h

theorem spaced_offsetWords (n : Int) : Draft.spaced (offsetWords (some n)) =
    [.text " ", .text "OFFSET", .text " ", .text (toString n)] :=
  Draft.spaced_words (by decide) (Text.intToString_ne n)

/-- The clause for an order has text if one of its expressions has. -/
theorem spaced_orderClause (ordering : List Expr) :
    (∀ e ∈ ordering, (e.draft g).isBlank = true) ∧ Draft.spaced (orderClause g ordering) = [] ∨
      ¬ (∀ e ∈ ordering, (e.draft g).isBlank = true) ∧ ∃ rest,
        Draft.spaced (orderClause g ordering) = .text " " :: .text "ORDER BY " :: rest := by
  have hitems : (Draft.join ", " (Piece.drafts (ordering.map (Expr.piece g)))).isBlank =
      ordering.all fun e => (e.draft g).isBlank := by
    rw [Draft.isBlank_join, Piece.drafts, List.all_map, List.all_map]
    rfl
  cases ordering with
  | nil => exact .inl ⟨List.forall_mem_nil _, rfl⟩
  | cons e ordering =>
      have hclause : orderClause g (e :: ordering) =
          [.clause "ORDER BY" (.join ", " (Piece.drafts ((e :: ordering).map (Expr.piece g))))] :=
        rfl
      rw [hclause, ← List.all_eq_true, ← hitems]
      by_cases h : (Draft.join ", " (Piece.drafts ((e :: ordering).map (Expr.piece g)))).isBlank
      · refine .inl ⟨h, Draft.spaced_eq_nil ?_⟩
        rw [List.all_cons, Draft.isBlank_clause, h]
        rfl
      · exact .inr ⟨h, _, Draft.spaced_clause "ORDER BY" (eq_false_of_ne_true h)⟩

/-- The parenthesis before a member, if there is one. -/
def opening : List Segment :=
  if g.unionFeatures.has .parenthesizedMembers then [.text "("] else []

/-- The parenthesis after a member, if there is one. -/
def closing : List Segment :=
  if g.unionFeatures.has .parenthesizedMembers then [.text ")"] else []

/-- What is written up to the place where the limit may be. -/
def front : List Segment :=
  Segment.joined " " true (Draft.segmentLists (u.earlier g)) ++
    (if (u.earlier g).all Draft.isBlank then [] else [.text " "]) ++ opening g ++
    (Draft.phrase (u.chosen g)).segments ++ Draft.spaced (orderClause g u.ordering.inner)

/-- What moves from one place to the other. -/
def moved : List Segment :=
  Draft.spaced (orderClause g u.ordering.moving ++ limitWords (toString u.limit) ++
    offsetWords u.offset.moving)

/-- What stands between the two places. -/
def between : List Segment :=
  Draft.spaced (offsetWords u.offset.inner ++ u.lock g) ++ closing g ++
    Draft.spaced (orderClause g u.ordering.outer)

theorem segments_asMember {d : Draft} (h : d.isBlank = false) :
    (asMember g d).segments = opening g ++ d.segments ++ closing g := by
  unfold asMember opening closing
  cases g.unionFeatures.has .parenthesizedMembers with
  | true =>
      rw [if_pos rfl, if_pos rfl, if_pos rfl, Draft.segments_group_single h]
      rfl
  | false => simp

theorem isBlank_asMember {d : Draft} (h : d.isBlank = false) : (asMember g d).isBlank = false := by
  rw [Draft.isBlank, segments_asMember g h, Segment.areBlank_append, Segment.areBlank_append]
  have full : Segment.areBlank d.segments = false := h
  rw [full, Bool.and_false, Bool.false_and]

theorem segments_within (inner outer : Window) :
    (u.within inner outer).segments g =
      Segment.joined " " true (Draft.segmentLists (u.earlier g)) ++
        (if (u.earlier g).all Draft.isBlank then [] else [.text " "]) ++ opening g ++
        (Draft.phrase (u.chosen g)).segments ++ Draft.spaced (windowDrafts g inner) ++
        Draft.spaced (u.lock g) ++ closing g ++ Draft.spaced (windowDrafts g outer) := by
  have hchosen : (u.chosen g).all Draft.isBlank = false := by
    simp [chosen, Draft.isBlank_text]
  have hselected : (Draft.phrase (u.chosen g ++ windowDrafts g inner ++ u.lock g)).segments =
      (Draft.phrase (u.chosen g)).segments ++ Draft.spaced (windowDrafts g inner) ++
        Draft.spaced (u.lock g) := by
    rw [List.append_assoc, Draft.segments_phrase_append hchosen, Draft.spaced_append,
      List.append_assoc]
  have hfull : (Draft.phrase (u.chosen g ++ windowDrafts g inner ++ u.lock g)).isBlank = false := by
    rw [Draft.phrase, Draft.isBlank_join, List.all_append, List.all_append, hchosen]
    rfl
  have hmember : ¬ Segment.areBlank
      (asMember g (.phrase (u.chosen g ++ windowDrafts g inner ++ u.lock g))).segments = true :=
    ne_true_of_eq_false (isBlank_asMember g hfull)
  rw [Expr.segments, draft_within, Draft.phrase, Draft.segments, Draft.segmentLists_eq,
    List.map_append, Segment.joined_append, ← Draft.segmentLists_eq, ← Draft.segmentLists_eq,
    Draft.all_isBlank, Draft.segmentLists, Segment.joined, if_neg hmember,
    segments_asMember g hfull, hselected]
  simp only [Draft.spaced, Bool.true_and, Separator.chunk, List.append_assoc]

/-- What is written with the limit on the member. -/
theorem segments_onMember :
    u.onMember.segments g =
      u.front g ++ (u.moved g ++ u.between g ++ Draft.spaced (standInWords g u.offset.outer) ++
        Draft.spaced (offsetWords u.offset.outer)) := by
  have order := (Placed.onInner_eq (f := fun os => Draft.spaced (orderClause g os)) rfl
    u.ordering).1
  have skip := (Placed.onInner_eq (f := fun n => Draft.spaced (offsetWords n)) rfl u.offset).2
  rw [onMember, segments_within]
  unfold front moved between windowDrafts
  rw [limitOffset_some, limitOffset_none]
  simp only [Draft.spaced_append, order, skip, List.append_assoc]

/-- What is written with the limit on the union. -/
theorem segments_onUnion :
    u.onUnion.segments g =
      u.front g ++ (Draft.spaced (standInWords g u.offset.inner) ++ u.between g ++ u.moved g ++
        Draft.spaced (offsetWords u.offset.outer)) := by
  have order := (Placed.onOuter_eq (f := fun os => Draft.spaced (orderClause g os)) rfl
    u.ordering).1
  have skip := (Placed.onOuter_eq (f := fun n => Draft.spaced (offsetWords n)) rfl u.offset).2
  rw [onUnion, segments_within]
  unfold front moved between windowDrafts
  rw [limitOffset_some, limitOffset_none]
  simp only [Draft.spaced_append, order, skip, List.append_assoc]

/-! ## Success and warnings -/

section Test

variable (test : Draft → Bool)

theorem all_windowDrafts (text : ∀ s, test (.text s) = true) (w : Window) :
    (windowDrafts g w).all test = (orderClause g w.ordering).all test := by
  obtain ⟨ordering, limit, offset⟩ := w
  have counts : (limitOffset g (Window.count limit) (Window.count offset)).all test = true := by
    cases limit with
    | some n =>
        rw [limitOffset_some]
        cases offset <;> simp [limitWords, offsetWords, text]
    | none =>
        rw [limitOffset_none]
        cases offset <;> cases h : g.offsetWithoutLimit <;>
          simp [standInWords, limitWords, offsetWords, text, h]
  rw [windowDrafts, List.all_append, counts, Bool.and_true]

/-- A test that looks at all parts, wherever they are, has the same result for both unions. -/
theorem test_onMember (text : ∀ s, test (.text s) = true)
    (phrase : ∀ ds, test (.phrase ds) = ds.all test) (group : ∀ d, test (.group [d]) = test d) :
    test (u.onMember.draft g) = test (u.onUnion.draft g) := by
  have hmember (d : Draft) : test (asMember g d) = test d := by
    unfold asMember
    cases g.unionFeatures.has .parenthesizedMembers with
    | true => exact group d
    | false => rfl
  have hwithin (inner outer : Window) : test ((u.within inner outer).draft g) =
      ((u.earlier g).all test && ((u.chosen g).all test &&
        (orderClause g inner.ordering).all test && (u.lock g).all test &&
        (orderClause g outer.ordering).all test)) := by
    rw [draft_within, phrase, List.all_append, List.all_cons, hmember, phrase, List.all_append,
      List.all_append, all_windowDrafts g test text, all_windowDrafts g test text]
  rw [onMember, onUnion, hwithin, hwithin]
  cases u.ordering with
  | kept inner outer => rfl
  | moved part =>
      have nothing : (orderClause g (default : List Expr)).all test = true := rfl
      show (_ && (_ && (orderClause g part).all test && _ && (orderClause g default).all test)) =
        (_ && (_ && (orderClause g default).all test && _ && (orderClause g part).all test))
      rw [nothing, Bool.and_true, Bool.and_true, Bool.and_assoc, Bool.and_assoc,
        Bool.and_comm (List.all (u.lock g) test)]

end Test

end LimitedUnion

end SqlRender
