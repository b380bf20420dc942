import SqlRender.Expr.Build
import SqlRender.Proofs.Expr.Mute
import SqlRender.Proofs.Render.Success

/-!
# Operators between columns and values

A condition is mostly made of columns and bound values with operators between them. Such a tree is
rendered token by token, in the order in which a reader meets them: an operator stands between its
operands, and only what is put into parentheses in the tree has them in the text. So the tokens are
all that the text has of the tree (`OperatorTree.segments_expr`), and trees that are nested
differently without parentheses have the same tokens.

Where every operation that is an operand stands in parentheses the tokens give the tree back
(`OperatorTree.eq_of_tokens`).
-/

namespace SqlRender

/-- An operator that is written. Only the one for concatenation is not. -/
abbrev WrittenOperator : Type :=
  { o : BinaryOperator // o ≠ .concatenate }

/-- A column by its name and that of its table, if it is given. -/
structure ColumnName where
  name : String
  table : Option String := none
  deriving DecidableEq, Repr

/-- Operators between columns and bound values. -/
inductive OperatorTree where
  | column (c : ColumnName)
  | bound (v : Value)
  | operation (left : OperatorTree) (operator : WrittenOperator) (right : OperatorTree)
  /-- A tree in parentheses. -/
  | grouped (inner : OperatorTree)

/-- What a reader meets of such a tree. -/
inductive OperatorToken where
  | column (c : ColumnName)
  | bound (v : Value)
  | operator (o : WrittenOperator)
  | opening
  | closing

namespace ColumnName

/-- The expression for a column. -/
def expr (c : ColumnName) : Expr :=
  Expr.column (.value (.text c.name)) (c.table.elim Expr.absent fun t => .value (.text t))

/-- The texts that a column is written with. A star is not quoted. -/
def texts (g : Grammar) (c : ColumnName) : List String :=
  (c.table.elim [] fun t => [g.quoteIdentifier t, "."]) ++
    [if c.name = "*" then "*" else g.quoteIdentifier c.name]

theorem draft_expr (g : Grammar) (c : ColumnName) :
    c.expr.draft g = .seq ((c.texts g).map .text) := by
  obtain ⟨name, table⟩ := c
  by_cases h : name = "*"
  · subst h
    cases table <;> rfl
  · have hname (owner : Expr) : Expr.column (.value (.text name)) owner =
        .node (.column (.node (.identifier name)) owner.orIdentifier) := by
      unfold Expr.column
      split
      · rename_i heq
        cases heq
        exact absurd rfl h
      · rfl
    rw [expr, hname, texts]
    simp only [if_neg h]
    cases table <;> rfl

end ColumnName

namespace OperatorTree

/-- The expression that a tree stands for. -/
def expr : OperatorTree → Expr
  | .column c => c.expr
  | .bound v => .node (.bind (.value v))
  | .operation left o right =>
    .node (.operation left.expr (.node (.keyword (.operator o.val))) right.expr)
  | .grouped inner => .node (.group [inner.expr])

/-- The tokens of a tree from left to right. -/
def tokens : OperatorTree → List OperatorToken
  | .column c => [.column c]
  | .bound v => [.bound v]
  | .operation left o right => left.tokens ++ .operator o :: right.tokens
  | .grouped inner => .opening :: (inner.tokens ++ [.closing])

end OperatorTree

/-- What is written for a token. -/
def OperatorToken.segments (g : Grammar) : OperatorToken → List Segment
  | .column c => (c.texts g).map .text
  | .bound v => [.value v]
  | .operator o => [.text " ", .text o.val.text, .text " "]
  | .opening => [.text "("]
  | .closing => [.text ")"]

/-! ## Trees are rendered token by token -/

section Rendering

variable (g : Grammar)

theorem WrittenOperator.draft_eq (o : WrittenOperator) :
    Node.keywordDraft g (.operator o.val) = .text o.val.text := by
  obtain ⟨o, h⟩ := o
  cases o with
  | concatenate => exact absurd rfl h
  | _ => rfl

theorem WrittenOperator.text_ne (o : WrittenOperator) : o.val.text ≠ "" :=
  Keyword.text_ne (.operator o.val)

namespace OperatorTree

theorem part_expr (t : OperatorTree) : (t.expr.piece g).part = [t.expr.draft g] := by
  cases t <;> rfl

theorem draft_operation (left : OperatorTree) (o : WrittenOperator) (right : OperatorTree) :
    (operation left o right).expr.draft g =
      .phrase [left.expr.draft g, .text o.val.text, right.expr.draft g] := by
  show Draft.phrase (Piece.parts [left.expr.piece g,
    (Expr.node (.keyword (.operator o.val))).piece g, right.expr.piece g]) = _
  have hoperator : ((Expr.node (.keyword (.operator o.val))).piece g).part =
      [.text o.val.text] := congrArg (fun d => [d]) (o.draft_eq g)
  rw [Piece.parts, List.flatMap_cons, List.flatMap_cons, List.flatMap_cons, part_expr, part_expr,
    hoperator]
  rfl

theorem draft_grouped (inner : OperatorTree) :
    (grouped inner).expr.draft g = .group [inner.expr.draft g] :=
  rfl

/-- Nothing in such a tree fails. -/
theorem isSound_draft (t : OperatorTree) : (t.expr.draft g).isSound = true := by
  induction t with
  | column c =>
      show (c.expr.draft g).isSound = true
      rw [c.draft_expr, Draft.isSound, Draft.allSound_eq]
      simp [Draft.isSound]
  | bound v => rfl
  | operation left o right hleft hright =>
      rw [draft_operation, Draft.isSound_phrase]
      simp [hleft, hright, Draft.isSound]
  | grouped inner ih =>
      rw [draft_grouped, Draft.group]
      simp [Draft.isSound, Draft.allSound, Separator.isText, ih]

variable {g}

theorem segments_column (c : ColumnName) :
    (column c).expr.segments g = (c.texts g).map .text := by
  show (c.expr.draft g).segments = _
  rw [c.draft_expr, Draft.segments, Draft.segmentLists_eq]
  generalize c.texts g = texts
  induction texts with
  | nil => rfl
  | cons text texts ih => exact congrArg (Segment.text text :: ·) ih

/-- A column has a text, since the marks around its name do. -/
theorem areBlank_column (marked : ∀ s, g.quoteIdentifier s ≠ "") (c : ColumnName) :
    Segment.areBlank ((c.texts g).map .text) = false := by
  have last : (if c.name = "*" then "*" else g.quoteIdentifier c.name) ≠ "" := by
    split
    · decide
    · exact marked c.name
  rw [ColumnName.texts, List.map_append, Segment.areBlank_append, Bool.and_eq_false_iff]
  right
  simp [Segment.areBlank, Segment.isBlank, last]

/-- No such tree is left out for want of text. -/
theorem areBlank_segments (marked : ∀ s, g.quoteIdentifier s ≠ "") (t : OperatorTree) :
    Segment.areBlank (t.expr.segments g) = false := by
  induction t with
  | column c =>
      rw [segments_column]
      exact areBlank_column marked c
  | bound v => rfl
  | operation left o right hleft hright =>
      rw [Expr.segments, draft_operation]
      show (Draft.phrase _).isBlank = false
      rw [Draft.phrase, Draft.isBlank_join, List.all_cons, Bool.and_eq_false_iff]
      exact .inl hleft
  | grouped inner ih => rfl

/-- The segments of a tree are those of its tokens. -/
theorem segments_expr (marked : ∀ s, g.quoteIdentifier s ≠ "") (t : OperatorTree) :
    t.expr.segments g = t.tokens.flatMap (OperatorToken.segments g) := by
  induction t with
  | column c => rw [segments_column, tokens, List.flatMap_singleton, OperatorToken.segments]
  | bound v => rfl
  | operation left o right hleft hright =>
      have left_full := areBlank_segments marked left
      have right_full := areBlank_segments marked right
      have operator_full : Segment.areBlank [.text o.val.text] = false := by
        simp [Segment.areBlank, Segment.isBlank, o.text_ne]
      rw [Expr.segments] at left_full right_full hleft hright ⊢
      rw [draft_operation, tokens, List.flatMap_append, List.flatMap_cons, ← hleft, ← hright]
      simp [Draft.phrase, Draft.segments, Draft.segmentLists, Segment.joined, left_full,
        operator_full, right_full, Separator.chunk, OperatorToken.segments]
  | grouped inner ih =>
      have full := areBlank_segments marked inner
      rw [Expr.segments] at full ih ⊢
      rw [draft_grouped, tokens, List.flatMap_cons, List.flatMap_append, ← ih]
      simp [Draft.group, Draft.segments, Draft.segmentLists, Segment.joined, full,
        OperatorToken.segments]

end OperatorTree

end Rendering

/-! ## Tokens give back what is in parentheses -/

namespace OperatorTree

/-- Whether a tree is an operation that stands without parentheses. -/
def isOperation : OperatorTree → Bool
  | .operation _ _ _ => true
  | _ => false

/-- Every operation that is an operand stands in parentheses. -/
def IsGrouped : OperatorTree → Prop
  | .column _ | .bound _ => True
  | .operation left _ right =>
    left.isOperation = false ∧ right.isOperation = false ∧ left.IsGrouped ∧ right.IsGrouped
  | .grouped inner => inner.IsGrouped

/-- No operator comes first, so that an operand before these tokens is over. -/
def EndsOperand (ts : List OperatorToken) : Prop :=
  ∀ o rest, ts ≠ .operator o :: rest

/-- The tokens of an operand show where it ends and are those of no other operand. -/
def IsToldAlone (t : OperatorTree) : Prop :=
  ∀ ⦃t' : OperatorTree⦄ ⦃ts ts' : List OperatorToken⦄, t'.isOperation = false → t'.IsGrouped →
    t.tokens ++ ts = t'.tokens ++ ts' → t = t' ∧ ts = ts'

/-- The tokens of a tree are those of no other tree where the next one is no operator. -/
def IsToldInside (t : OperatorTree) : Prop :=
  ∀ ⦃t' : OperatorTree⦄ ⦃ts ts' : List OperatorToken⦄, t'.IsGrouped → EndsOperand ts →
    EndsOperand ts' → t.tokens ++ ts = t'.tokens ++ ts' → t = t' ∧ ts = ts'

/-- An operand is not the first half of an operation if no operator comes next. -/
theorem IsToldAlone.inside {t : OperatorTree} (alone : t.IsToldAlone) : t.IsToldInside := by
  intro t' ts ts' grouped ends _ h
  cases t' with
  | operation left o right =>
      obtain ⟨hleft, -, hgrouped, -⟩ := grouped
      rw [tokens, List.append_assoc] at h
      exact absurd (alone hleft hgrouped h).2 (ends o _)
  | _ => exact alone rfl grouped h

/-- Going down a tree, parentheses bring an end that no operator follows, and operations bring
operands. -/
theorem isTold (t : OperatorTree) (grouped : t.IsGrouped) :
    (t.isOperation = false → t.IsToldAlone) ∧ t.IsToldInside := by
  induction t with
  | column c =>
      have alone : (column c).IsToldAlone := by
        intro t' ts ts' operand _ h
        cases t' with
        | column c' =>
            obtain ⟨hc, hts⟩ := List.cons.inj h
            cases hc
            exact ⟨rfl, hts⟩
        | operation _ _ _ => cases operand
        | _ => cases h
      exact ⟨fun _ => alone, alone.inside⟩
  | bound v =>
      have alone : (bound v).IsToldAlone := by
        intro t' ts ts' operand _ h
        cases t' with
        | bound v' =>
            obtain ⟨hv, hts⟩ := List.cons.inj h
            cases hv
            exact ⟨rfl, hts⟩
        | operation _ _ _ => cases operand
        | _ => cases h
      exact ⟨fun _ => alone, alone.inside⟩
  | grouped inner ih =>
      have alone : (OperatorTree.grouped inner).IsToldAlone := by
        intro t' ts ts' operand hgrouped h
        cases t' with
        | grouped inner' =>
            have hinner : inner.tokens ++ .closing :: ts = inner'.tokens ++ .closing :: ts' := by
              simpa [tokens] using h
            have ends (rest : List OperatorToken) : EndsOperand (.closing :: rest) := nofun
            have hgrouped' : inner'.IsGrouped := hgrouped
            obtain ⟨heq, hrest⟩ := (ih grouped).2 hgrouped' (ends ts) (ends ts') hinner
            exact ⟨congrArg OperatorTree.grouped heq, (List.cons.inj hrest).2⟩
        | operation _ _ _ => cases operand
        | _ => cases h
      exact ⟨fun _ => alone, alone.inside⟩
  | operation left o right hleft hright =>
      obtain ⟨leftOperand, rightOperand, leftGrouped, rightGrouped⟩ := grouped
      have leftAlone := (hleft leftGrouped).1 leftOperand
      have rightAlone := (hright rightGrouped).1 rightOperand
      refine ⟨nofun, ?_⟩
      intro t' ts ts' hgrouped _ ends' h
      rw [tokens, List.append_assoc] at h
      cases t' with
      | operation left' o' right' =>
          obtain ⟨leftOperand', rightOperand', leftGrouped', rightGrouped'⟩ := hgrouped
          rw [tokens, List.append_assoc] at h
          obtain ⟨rfl, hrest⟩ := leftAlone leftOperand' leftGrouped' h
          obtain ⟨ho, hafter⟩ := List.cons.inj hrest
          cases ho
          obtain ⟨rfl, hts⟩ := rightAlone rightOperand' rightGrouped' hafter
          exact ⟨rfl, hts⟩
      -- the other tree is an operand, and then an operator would come next there
      | column c' => exact absurd (leftAlone rfl hgrouped h).2.symm (ends' o _)
      | bound v' => exact absurd (leftAlone rfl hgrouped h).2.symm (ends' o _)
      | grouped inner' => exact absurd (leftAlone rfl hgrouped h).2.symm (ends' o _)

/-- Trees in which every operation that is an operand stands in parentheses are told by their
tokens. -/
theorem eq_of_tokens {t t' : OperatorTree} (grouped : t.IsGrouped) (grouped' : t'.IsGrouped)
    (h : t.tokens = t'.tokens) : t = t' := by
  have ends : EndsOperand [] := nofun
  exact ((t.isTold grouped).2 grouped' ends ends (congrArg (· ++ []) h)).1

end OperatorTree

end SqlRender
