import SqlRender.Proofs.Expr.Vanishing

/-!
# Nodes at fault

A node may be at fault by itself, whatever its parts are: a case or a union has a pair that is none,
a path is empty, an update assigns nothing, or a trigger breaks a rule of the dialect. All of this
is looked for before any part is rendered, so that such a node fails without a trace
(`Node.render_of_atFault`). Of several faults any may be the one that is found.

Which rules a trigger breaks is said here about its parts, each rule by itself, and not in the order
in which rules are looked up (`CreateTrigger.mem_rules_iff`).
-/

namespace SqlRender

variable {g : Grammar}

/-! ## The rules of triggers -/

/-- Whether an expression is the given keyword. -/
def Expr.isWord (k : Keyword) : Expr → Bool
  | .node (.keyword k') => k' = k
  | _ => false

theorem Expr.isKeyword_piece (k : Keyword) (e : Expr) : (e.piece g).isKeyword k = e.isWord k := by
  cases e with
  | value v => cases v <;> rfl
  | sequence _ _ => rfl
  | node n =>
      rw [piece_node]
      cases n with
      | commonTable label query columns recursive =>
          show Piece.isKeyword ⟨_, if recursive.holds then .recursiveTable else .plain, _⟩ k = false
          split <;> rfl
      | _ => rfl

namespace CreateTrigger

/-- Whether a trigger breaks a rule under a set of features. Rules about nonsense are checked only
where the dialect asks for consistency, and about constraints only where it has them. -/
def Breaks (features : FeatureSet TriggerCreateFeature) (c : CreateTrigger Expr) : Rule → Prop
  | .insteadOfWithoutColumns =>
    features.has .consistency ∧ c.time.isWord (.triggerTime .insteadOf) ∧
      c.event.isWord (.triggerEvent .update) ∧ c.columns ≠ []
  | .insteadOfForEachRow =>
    features.has .consistency ∧ c.time.isWord (.triggerTime .insteadOf) ∧
      ¬ c.each.isWord (.triggerEach .row)
  | .columnsOnUpdate =>
    features.has .consistency ∧ features.has .updateColumns ∧ c.columns ≠ [] ∧
      ¬ c.event.isWord (.triggerEvent .update)
  | .insteadOfWithoutCondition =>
    features.has .consistency ∧ features.has .condition ∧
      c.time.isWord (.triggerTime .insteadOf) ∧ ¬ c.condition.isNull
  | .constraintAfter =>
    features.has .consistency ∧ features.has .constraints ∧ c.isConstraint.holds ∧
      ¬ c.time.isWord (.triggerTime .after)
  | .constraintForEachRow =>
    features.has .consistency ∧ features.has .constraints ∧ c.isConstraint.holds ∧
      ¬ c.each.isWord (.triggerEach .row)
  | .timingOnConstraint =>
    features.has .consistency ∧ features.has .constraints ∧ ¬ c.isConstraint.holds ∧
      ¬ c.timing.isNull
  | .definerUnderstood => ¬ features.has .definer ∧ ¬ c.definer.isNull
  | .bodyGiven => features.has .body ∧ c.body = none
  | .procedureGiven => ¬ features.has .body ∧ c.procedure.isNull
  | .subpathNotEmpty => False
  | .updateNotEmpty => False

/-- The rules that are not kept are those that the trigger breaks. -/
theorem mem_rules_iff (features : FeatureSet TriggerCreateFeature) (c : CreateTrigger Expr)
    (rule : Rule) :
    (false, rule) ∈ (c.map (Expr.piece g)).rules features ↔ c.Breaks features rule := by
  cases hchecked : features.has .consistency <;> cases hknown : features.has .constraints <;>
    cases rule <;>
    simp [rules, map, Breaks, Expr.isKeyword_piece, Expr.isAbsent_piece, hchecked, hknown,
      and_assoc]

/-- If a trigger breaks rules, the first that is found is one of them. -/
theorem broken?_of_breaks {features : FeatureSet TriggerCreateFeature} {c : CreateTrigger Expr}
    {rule : Rule} (h : c.Breaks features rule) :
    ∃ found, (c.map (Expr.piece g)).broken? features = some found ∧ c.Breaks features found := by
  have hmem := (mem_rules_iff (g := g) features c rule).2 h
  -- some rule is not kept, so that the search ends at one, which need not be the one given
  cases hfind : ((c.map (Expr.piece g)).rules features).find? fun rule => !rule.1 with
  | none =>
      rw [List.find?_eq_none] at hfind
      exact absurd rfl (hfind _ hmem)
  | some found =>
      obtain ⟨kept, found⟩ := found
      have hkept := List.find?_some hfind
      rw [Bool.not_eq_true'] at hkept
      refine ⟨found, by rw [broken?, hfind]; rfl, ?_⟩
      rw [← mem_rules_iff (g := g), ← hkept]
      exact List.mem_of_find?_eq_some hfind

end CreateTrigger

/-! ## Pairs -/

theorem Piece.pair_eq_error {pieces : List Piece} (h : pieces.length ≠ 2) :
    pair pieces = .error
      (if pieces.length < 2 then .tooFewParts pieces.length else .tooManyParts) := by
  match pieces, h with
  | [], _ => rfl
  | [_], _ => rfl
  | _ :: _ :: _ :: _, _ => rfl

/-- Where a pair is none, reading the pairs ends in the fault of one of these. -/
theorem Piece.pairs_eq_error {rows : List (List Expr)} (h : ∃ row ∈ rows, row.length ≠ 2) :
    ∃ row ∈ rows, row.length ≠ 2 ∧
      pairs (rows.map (·.map (Expr.piece g))) = .error
        (if row.length < 2 then .tooFewParts row.length else .tooManyParts) := by
  -- the first row that is no pair decides, and the rows after it are not looked at
  induction rows with
  | nil =>
      obtain ⟨row, hmem, -⟩ := h
      exact absurd hmem List.not_mem_nil
  | cons row rows ih =>
      by_cases hrow : row.length = 2
      · match row, hrow with
        | [first, second], _ =>
            have hrest : ∃ row ∈ rows, row.length ≠ 2 := by
              obtain ⟨row, hmem, hlength⟩ := h
              rcases List.mem_cons.1 hmem with rfl | hmem
              · exact absurd rfl hlength
              · exact ⟨row, hmem, hlength⟩
            obtain ⟨found, hmem, hlength, hpairs⟩ := ih hrest
            refine ⟨found, List.mem_cons_of_mem _ hmem, hlength, ?_⟩
            rw [List.map_cons, pairs, List.map_cons, List.map_cons, List.map_nil, pair]
            simp only
            rw [hpairs]
            rfl
      · have hlength : (row.map (Expr.piece g)).length ≠ 2 := by rwa [List.length_map]
        refine ⟨row, List.mem_cons_self .., hrow, ?_⟩
        rw [List.map_cons, pairs, pair_eq_error hlength, List.length_map]

/-! ## Nodes at fault -/

namespace Node

/-- What should be the pairs of a node. -/
def pairRows : Node Expr → List (List Expr)
  | .case cases _ _ => cases
  | .union u => u.members
  | _ => []

/-- The rules that a node breaks by itself. -/
inductive Breaks (g : Grammar) : Node Expr → Rule → Prop where
  | subpath (target : Expr) : Breaks g (.subpath target []) .subpathNotEmpty
  | conflictStrategy (targets : List Expr) (filter : Expr) (upserts : g.upsertStyle ≠ .unsupported) :
      Breaks g (.conflictStrategy targets (.node (.conflictAction (some []) filter)))
        .updateNotEmpty
  | createTrigger {c : CreateTrigger Expr} {rule : Rule} (h : c.Breaks g.triggers.create rule) :
      Breaks g (.createTrigger c) rule

/-- A node with a pair that is none has nothing else in its draft than the fault. -/
theorem draft_of_loose_pair {n : Node Expr} (h : ∃ row ∈ n.pairRows, row.length ≠ 2) :
    ∃ row ∈ n.pairRows, row.length ≠ 2 ∧
      (Expr.node n).draft g =
        .fail (if row.length < 2 then .tooFewParts row.length else .tooManyParts) := by
  obtain ⟨row, hmem, hlength, hpairs⟩ := Piece.pairs_eq_error (g := g) h
  refine ⟨row, hmem, hlength, ?_⟩
  rw [Expr.draft_node]
  cases n with
  | case cases operand alternative =>
      have hpairs : Piece.pairs (cases.map (·.map (Expr.piece g))) = _ := hpairs
      show Draft.case (cases.map (·.map (Expr.piece g))) _ _ = _
      rw [Draft.case, hpairs]
  | union u =>
      have hpairs : Piece.pairs (u.map (Expr.piece g)).members = _ := hpairs
      -- the pairs of a union are read only if it has members, and here it has one that is no pair
      have hsome : (u.map (Expr.piece g)).members.isEmpty = false := by
        rw [Union.map, List.isEmpty_map, List.isEmpty_eq_false_iff]
        exact List.ne_nil_of_mem hmem
      show (u.map (Expr.piece g)).draft g = _
      rw [Union.draft, hsome, if_neg Bool.false_ne_true, hpairs]
  | _ => exact absurd hmem List.not_mem_nil

/-- A node that breaks rules has nothing else in its draft than one of them. -/
theorem draft_of_breaks {n : Node Expr} {rule : Rule} (h : n.Breaks g rule) :
    ∃ found, n.Breaks g found ∧ (Expr.node n).draft g = .fail (.broken found) := by
  cases h with
  | subpath target =>
      refine ⟨_, .subpath target, ?_⟩
      rw [Expr.draft_node]
      rfl
  | conflictStrategy targets filter upserts =>
      refine ⟨_, .conflictStrategy targets filter upserts, ?_⟩
      rw [Expr.draft_node]
      show Draft.conflictStrategy g _ ((Expr.node (.conflictAction (some []) filter)).piece g) = _
      rw [Expr.piece_node, Draft.conflictStrategy, if_neg upserts]
      rfl
  | createTrigger h =>
      rename_i c
      obtain ⟨found, hfound, hbreaks⟩ := CreateTrigger.broken?_of_breaks (g := g) h
      refine ⟨found, .createTrigger hbreaks, ?_⟩
      rw [Expr.draft_node]
      show (c.map (Expr.piece g)).draft g = _
      rw [CreateTrigger.draft, hfound]

/-- **A node at fault leaves no trace.** If a pair of a node is none, rendering ends in the fault of
such a pair, and if it breaks a rule, in the fault of such a rule; text, values and warnings are
then as they were before, whatever the node consists of. -/
theorem render_of_atFault (d : Dialect) (n : Node Expr) (s : Serializer) :
    ((∃ row ∈ n.pairRows, row.length ≠ 2) →
      ∃ row ∈ n.pairRows, row.length ≠ 2 ∧
        (Expr.node n).render d s =
          .error (if row.length < 2 then .tooFewParts row.length else .tooManyParts) s) ∧
      ((∃ rule, n.Breaks d.toGrammar rule) →
        ∃ rule, n.Breaks d.toGrammar rule ∧
          (Expr.node n).render d s = .error (.broken rule) s) := by
  constructor
  · intro h
    obtain ⟨row, hmem, hlength, hdraft⟩ := draft_of_loose_pair (g := d.toGrammar) h
    refine ⟨row, hmem, hlength, ?_⟩
    rw [Expr.render, hdraft]
    rfl
  · rintro ⟨rule, h⟩
    obtain ⟨found, hfound, hdraft⟩ := draft_of_breaks h
    refine ⟨found, hfound, ?_⟩
    rw [Expr.render, hdraft]
    rfl

/-- A case whose first pair binds a value and asks for what is left out with a warning, before a
pair of three parts. -/
def looseCase : Node Expr :=
  .case [[.node (.bind (.value (.int 1))), .node (.keyword (.operator .concatenate))],
    [.absent, .absent, .absent]] .absent .absent

/-- An upsert of nothing, on a target that binds a value. -/
def idleUpsert : Node Expr :=
  .conflictStrategy [.node (.bind (.value (.int 1)))]
    (.node (.conflictAction (some []) .absent))

/-- A rendering that has begun. -/
def begun : Serializer where
  written := ⟨["SELECT ", "?"], none⟩
  binds := [.int 7]
  warnings := [.concatenation]

theorem render_of_atFault_begun :
    ((∃ row ∈ looseCase.pairRows, row.length ≠ 2) ∧
      ∃ row ∈ looseCase.pairRows, row.length ≠ 2 ∧
        (Expr.node looseCase).render .sqlite begun =
          .error (if row.length < 2 then .tooFewParts row.length else .tooManyParts) begun) ∧
      (∃ rule, idleUpsert.Breaks Dialect.sqlite.toGrammar rule) ∧
        ∃ rule, idleUpsert.Breaks Dialect.sqlite.toGrammar rule ∧
          (Expr.node idleUpsert).render .sqlite begun = .error (.broken rule) begun := by
  have loose : ∃ row ∈ looseCase.pairRows, row.length ≠ 2 :=
    ⟨[.absent, .absent, .absent], List.mem_cons_of_mem _ (List.mem_cons_self ..), by decide⟩
  have idle : ∃ rule, idleUpsert.Breaks Dialect.sqlite.toGrammar rule :=
    ⟨.updateNotEmpty, .conflictStrategy _ _ (by decide)⟩
  exact ⟨⟨loose, (render_of_atFault .sqlite looseCase begun).1 loose⟩, idle,
    (render_of_atFault .sqlite idleUpsert begun).2 idle⟩

end Node

end SqlRender
