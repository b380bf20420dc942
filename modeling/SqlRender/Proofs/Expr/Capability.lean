import SqlRender.Proofs.Expr.Unsupported
import SqlRender.Proofs.Likeness.Quiet
import SqlRender.Proofs.Likeness.Weight

/-!
# Capabilities of a dialect

Four things that a dialect may be capable of are told by a flag each. Nodes that ask for one of them
lose some words where the dialect lacks it. Most of them warn of that; the removals of tables,
indexes and triggers do not. So a tree runs alike with and without the capability, as long as
nothing warns and no removal in it leaves anything out (`Expr.reruns_switch`). With the capability a
tree never writes less (`Expr.piece_switch_heavier`), and a removal that leaves out something with
text writes more (`Expr.weight_switch_lt`).
-/

namespace SqlRender

/-- What a dialect may be capable of. -/
inductive Capability where
  /-- `IF EXISTS` and `IF NOT EXISTS`. -/
  | ifExists
  | returning
  /-- `CASCADE` and `RESTRICT` after removals. -/
  | dropBehavior
  | autoIncrement
  deriving DecidableEq, Repr

/-- A grammar with or without a capability. -/
def Grammar.switch (c : Capability) (on : Bool) (g : Grammar) : Grammar :=
  { g with
    supportsIfExists := if c = .ifExists then on else g.supportsIfExists
    supportsReturning := if c = .returning then on else g.supportsReturning
    supportsDropBehavior := if c = .dropBehavior then on else g.supportsDropBehavior
    supportsAutoIncrement := if c = .autoIncrement then on else g.supportsAutoIncrement }

/-- A dialect with or without a capability. -/
def Dialect.switch (c : Capability) (on : Bool) (d : Dialect) : Dialect :=
  { d with toGrammar := d.toGrammar.switch c on }

/-! ## Removals -/

/-- The removal of something: the words and the name, with a guard against there being none and a
behavior if something else depends on it. -/
structure Removal where
  words : List Draft
  guarded : Bool
  name : List Draft
  behavior : List Draft
  worded : words.all Draft.isBlank = false

namespace Removal

/-- The statement, where guards and behaviors may be known or not. -/
def draft (ifExists dropBehavior : Bool) (r : Removal) : Draft :=
  .phrase (r.words ++ Draft.wordIf (r.guarded && ifExists) "IF EXISTS" ++ r.name ++
    if dropBehavior then r.behavior else [])

/-- The parts of a removal that are written only with a capability. -/
def leftOut (c : Capability) (r : Removal) : List Draft :=
  match c with
  | .ifExists => Draft.wordIf r.guarded "IF EXISTS"
  | .dropBehavior => r.behavior
  | .returning | .autoIncrement => []

end Removal

/-- The removal that a node is. The behavior of a trigger's removal goes by what the dialect
understands of triggers, and is part of the name here. -/
def Node.removal? (g : Grammar) : Node Piece → Option Removal
  | .dropTable s =>
    some
      { words := .text "DROP" :: Draft.wordIf s.temporary.holds "TEMPORARY" ++ [.text "TABLE"]
        guarded := s.ifExists.holds
        name := s.table.part
        behavior := s.behavior.part
        worded := by simp [Draft.isBlank_text] }
  | .dropIndex s =>
    some
      { words := [.text "DROP INDEX"]
        guarded := s.ifExists.holds
        name := s.name.part ++ s.owner.clause "ON"
        behavior := s.behavior.part
        worded := by simp [Draft.isBlank_text] }
  | .dropTrigger s =>
    some
      { words := [.text "DROP TRIGGER"]
        guarded := s.ifExists.holds
        name := s.name.part ++
          (if g.triggers.drop.has .tableName then s.table.clause "ON" else []) ++
          if g.triggers.drop.has .behavior then s.behavior.part else []
        behavior := []
        worded := by simp [Draft.isBlank_text] }
  | _ => none

/-- What a node leaves out without a warning where the dialect lacks the capability. -/
def Node.leftOut (c : Capability) (g : Grammar) (n : Node Piece) : List Draft :=
  match n.removal? g with
  | some r => r.leftOut c
  | none => []

/-- What the root of a tree leaves out without a warning where the dialect lacks the capability. -/
def Expr.leftOut (c : Capability) (g : Grammar) : Expr → List Draft
  | .node n => (n.map (piece (g.switch c true))).leftOut c g
  | _ => []

section Nodes

variable {c : Capability} {g : Grammar} {n : Node Piece} {r : Removal}

theorem Node.draft_removal (h : n.removal? g = some r) :
    n.draft g = r.draft g.supportsIfExists g.supportsDropBehavior := by
  cases n with
  | dropTable s =>
      cases h
      simp [Node.draft, DropTable.draft, Removal.draft]
  | dropIndex s =>
      cases h
      simp [Node.draft, DropIndex.draft, Removal.draft]
  | dropTrigger s =>
      cases h
      simp [Node.draft, DropTrigger.draft, Removal.draft]
  | _ => cases h

theorem Removal.leftOut_eq_nil (h : c = .returning ∨ c = .autoIncrement) : r.leftOut c = [] := by
  rcases h with rfl | rfl <;> rfl

/-- Only guards and behaviors are ever left out. -/
theorem Expr.leftOut_eq_nil (h : c = .returning ∨ c = .autoIncrement) (g : Grammar) (e : Expr) :
    e.leftOut c g = [] := by
  unfold Expr.leftOut Node.leftOut
  split
  · split
    · exact Removal.leftOut_eq_nil h
    · rfl
  · rfl

end Nodes

/-! ## One node with and without the capability -/

section Switch

variable {c : Capability} {g : Grammar} {n : Node Piece} {r : Removal}

/-- A removal that leaves nothing out runs alike. -/
theorem Removal.reruns_switch (h : (r.leftOut c).all Draft.isMute = true) :
    Draft.Reruns
      (r.draft (g.switch c false).supportsIfExists (g.switch c false).supportsDropBehavior)
      (r.draft (g.switch c true).supportsIfExists (g.switch c true).supportsDropBehavior) := by
  cases c with
  | ifExists =>
      have hguarded : r.guarded = false := by
        refine eq_false_of_ne_true fun hguarded => ?_
        rw [leftOut, hguarded] at h
        simp [Draft.wordIf] at h
      rw [draft, draft, hguarded]
      exact .refl _
  | dropBehavior =>
      have hoff (a : Bool) : r.draft a false =
          .phrase (r.words ++ Draft.wordIf (r.guarded && a) "IF EXISTS" ++ r.name) := by
        rw [draft, if_neg Bool.false_ne_true, List.append_nil]
      exact hoff _ ▸ .phrase_append _ h
  | returning => exact .refl _
  | autoIncrement => exact .refl _

/-- The difference that the capability makes for a removal is what it leaves out. -/
theorem Removal.weight_switch (r : Removal) :
    (r.draft (g.switch c true).supportsIfExists (g.switch c true).supportsDropBehavior).weight =
      (r.draft (g.switch c false).supportsIfExists
        (g.switch c false).supportsDropBehavior).weight +
        Segment.weight (Draft.spaced (r.leftOut c)) := by
  have hweight (a b : Bool) : (r.draft a b).weight =
      Draft.weight (.phrase r.words) +
        Segment.weight (Draft.spaced (Draft.wordIf (r.guarded && a) "IF EXISTS")) +
        Segment.weight (Draft.spaced r.name) +
        Segment.weight (Draft.spaced (if b then r.behavior else [])) := by
    rw [draft, List.append_assoc, List.append_assoc, Draft.weight_phrase_append r.worded,
      Draft.spaced_append, Draft.spaced_append, Segment.weight_append, Segment.weight_append]
    omega
  rw [hweight, hweight]
  cases c with
  | ifExists =>
      have hoff : Draft.wordIf (r.guarded && (g.switch .ifExists false).supportsIfExists)
          "IF EXISTS" = [] := by
        show Draft.wordIf (r.guarded && false) "IF EXISTS" = []
        rw [Bool.and_false]
        rfl
      have hon : Draft.wordIf (r.guarded && (g.switch .ifExists true).supportsIfExists)
          "IF EXISTS" = r.leftOut .ifExists := by
        show Draft.wordIf (r.guarded && true) "IF EXISTS" = _
        rw [Bool.and_true]
        rfl
      have hbehavior : (g.switch .ifExists true).supportsDropBehavior =
          (g.switch .ifExists false).supportsDropBehavior := rfl
      rw [hoff, hon, hbehavior, Draft.spaced_nil, Segment.weight_nil]
      omega
  | dropBehavior => rfl
  | returning => rfl
  | autoIncrement => rfl

/-- A table that is created only if there is none yet comes with a warning where that cannot be
said. -/
theorem CreateTable.reruns_switch (s : CreateTable Piece) :
    Draft.Reruns (s.draft (g.switch c false)) (s.draft (g.switch c true)) := by
  cases c with
  | ifExists =>
      cases hholds : s.ifNotExists.holds with
      | true =>
          refine .of_not_silent ?_ _
          rw [draft, hholds]
          rfl
      | false =>
          rw [draft, draft, hholds]
          exact .refl _
  | returning => exact .refl _
  | dropBehavior => exact .refl _
  | autoIncrement => exact .refl _

/-- The statement weighs the same whether or not there is a warning before it. -/
theorem CreateTable.weight_draft (g : Grammar) (s : CreateTable Piece) :
    (s.draft g).weight =
      Draft.weight (.phrase (.text "CREATE" :: Draft.wordIf s.temporary.holds "TEMPORARY" ++
        [.text "TABLE"])) +
      Segment.weight (Draft.spaced
        (Draft.wordIf (s.ifNotExists.holds && g.supportsIfExists) "IF NOT EXISTS")) +
      Segment.weight (Draft.spaced (s.table.part ++
        (if s.definitions.isEmpty then [] else [.group (Piece.drafts s.definitions)]) ++
        s.asQuery.clause "AS")) := by
  have hwords : (.text "CREATE" :: Draft.wordIf s.temporary.holds "TEMPORARY" ++
      [Draft.text "TABLE"]).all Draft.isBlank = false := by
    simp [Draft.isBlank_text]
  have hweight : (s.draft g).weight = Draft.weight (.phrase
      ((.text "CREATE" :: Draft.wordIf s.temporary.holds "TEMPORARY" ++ [.text "TABLE"]) ++
        (Draft.wordIf (s.ifNotExists.holds && g.supportsIfExists) "IF NOT EXISTS" ++
        (s.table.part ++
          (if s.definitions.isEmpty then [] else [.group (Piece.drafts s.definitions)]) ++
          s.asQuery.clause "AS")))) := by
    unfold CreateTable.draft
    dsimp only
    split
    · rw [Draft.weight_warn_seq]
      simp
    · simp
  rw [hweight, Draft.weight_phrase_append hwords, Draft.spaced_append, Segment.weight_append]
  omega

theorem CreateTable.weight_switch_le (s : CreateTable Piece) :
    (s.draft (g.switch c false)).weight ≤ (s.draft (g.switch c true)).weight := by
  cases c with
  | ifExists =>
      have hoff : Draft.wordIf
          (s.ifNotExists.holds && (g.switch .ifExists false).supportsIfExists)
          "IF NOT EXISTS" = [] := by
        show Draft.wordIf (s.ifNotExists.holds && false) _ = _
        rw [Bool.and_false]
        rfl
      rw [weight_draft, weight_draft, hoff, Draft.spaced_nil, Segment.weight_nil]
      omega
  | returning => exact Nat.le_refl _
  | dropBehavior => exact Nat.le_refl _
  | autoIncrement => exact Nat.le_refl _

/-- A key that is filled in by itself comes with a warning where there is none. -/
theorem Draft.reruns_primaryKey (autoIncrement : Bool) :
    Reruns (.primaryKey (g.switch c false) autoIncrement)
      (.primaryKey (g.switch c true) autoIncrement) := by
  cases c with
  | autoIncrement =>
      cases autoIncrement with
      | true => exact .of_not_silent rfl _
      | false => exact .refl _
  | ifExists => exact .refl _
  | returning => exact .refl _
  | dropBehavior => exact .refl _

theorem Draft.weight_primaryKey_le (autoIncrement : Bool) :
    (primaryKey (g.switch c false) autoIncrement).weight ≤
      (primaryKey (g.switch c true) autoIncrement).weight := by
  cases c with
  | autoIncrement =>
      cases autoIncrement with
      | true =>
          have hoff : primaryKey (g.switch .autoIncrement false) true =
              .seq [.warn (.noAutoIncrement g.name), .text "PRIMARY KEY"] := rfl
          have hkey : "PRIMARY KEY".length = 11 := rfl
          rw [hoff, weight_warn_seq, weight_text, hkey]
          cases hfill : (g.switch .autoIncrement true).autoIncrementFunction with
          | some function =>
              have hon : primaryKey (g.switch .autoIncrement true) true =
                  .text (g.defaultWord ++ " " ++ function ++ " PRIMARY KEY") := by
                rw [primaryKey, hfill]
                rfl
              have hend : " PRIMARY KEY".length = 12 := rfl
              rw [hon, weight_text, String.length_append, hend]
              omega
          | none =>
              have hon : primaryKey (g.switch .autoIncrement true) true =
                  .text ("PRIMARY KEY " ++ g.autoIncrementClause) := by
                rw [primaryKey, hfill]
                rfl
              have hstart : "PRIMARY KEY ".length = 12 := rfl
              rw [hon, weight_text, String.length_append, hstart]
              omega
      | false => exact Nat.le_refl _
  | ifExists => exact Nat.le_refl _
  | returning => exact Nat.le_refl _
  | dropBehavior => exact Nat.le_refl _

/-- Columns that are asked for come with a warning where they are not given back. -/
theorem Draft.reruns_returning (columns : List Piece) :
    Reruns (.returning (g.switch c false) columns) (.returning (g.switch c true) columns) := by
  cases c with
  | returning =>
      cases columns with
      | nil => exact .refl _
      | cons column columns => exact .of_not_silent rfl _
  | ifExists => exact .refl _
  | dropBehavior => exact .refl _
  | autoIncrement => exact .refl _

theorem Draft.weight_returning_le (columns : List Piece) :
    (returning (g.switch c false) columns).weight ≤
      (returning (g.switch c true) columns).weight := by
  cases c with
  | returning =>
      cases columns with
      | nil => exact Nat.le_refl _
      | cons column columns => exact Nat.zero_le _
  | ifExists => exact Nat.le_refl _
  | dropBehavior => exact Nat.le_refl _
  | autoIncrement => exact Nat.le_refl _

theorem JsonAccess.draft_switch (on : Bool) (target : Draft) (path : List Wording)
    (access : JsonAccess) :
    access.draft (g.switch c on) target path = access.draft g target path := by
  cases access with
  | keyArrows =>
      show Draft.group [.join "" (target :: arrows (g.switch c on) path)] = _
      rw [arrows_congr (show (g.switch c on).quoteString = g.quoteString from rfl)]
      rfl
  | _ => rfl

theorem Node.removal?_switch (on : Bool) (n : Node Piece) :
    n.removal? (g.switch c on) = n.removal? g := by
  cases n <;> rfl

theorem Node.shape_switch (on : Bool) (n : Node Piece) : n.shape (g.switch c on) = n.shape g := by
  cases n <;> rfl

/-- What the capability makes of a node, in any relation that holds of everything and itself: only
a few kinds of nodes are to be looked at. -/
theorem Node.draft_switch {R : Draft → Draft → Prop} (refl : ∀ d, R d d)
    (createTable : ∀ s : CreateTable Piece,
      R (s.draft (g.switch c false)) (s.draft (g.switch c true)))
    (primaryKey : ∀ autoIncrement, R (.primaryKey (g.switch c false) autoIncrement)
      (.primaryKey (g.switch c true) autoIncrement))
    (returning : ∀ columns, R (.returning (g.switch c false) columns)
      (.returning (g.switch c true) columns))
    (removal : ∀ r, n.removal? g = some r →
      R (r.draft (g.switch c false).supportsIfExists (g.switch c false).supportsDropBehavior)
        (r.draft (g.switch c true).supportsIfExists (g.switch c true).supportsDropBehavior)) :
    R (n.draft (g.switch c false)) (n.draft (g.switch c true)) := by
  cases hr : n.removal? g with
  | some r =>
      rw [draft_removal ((n.removal?_switch false).trans hr),
        draft_removal ((n.removal?_switch true).trans hr)]
      exact removal r hr
  | none =>
      cases n with
      | dropTable s => cases hr
      | dropIndex s => cases hr
      | dropTrigger s => cases hr
      | createTable s => exact createTable s
      | returning columns => exact returning columns
      | columnConstraint kind expression autoIncrement =>
          cases kind with
          | primaryKey => exact primaryKey autoIncrement.holds
          | _ => exact refl _
      | subpath target path =>
          have hsame (on : Bool) : Draft.subpath (g.switch c on) target path =
              Draft.subpath g target path := by
            unfold Draft.subpath
            rw [show (g.switch c on).jsonAccess = g.jsonAccess from rfl]
            cases g.jsonAccess with
            | none => rfl
            | some access =>
                dsimp only
                rw [JsonAccess.draft_switch]
          show R (Draft.subpath _ target path) (Draft.subpath _ target path)
          rw [hsame, hsame]
          exact refl _
      | _ => exact refl _

/-- A node that leaves nothing out without a warning runs alike, while there is no warning. -/
theorem Node.reruns_switch (h : (n.leftOut c g).all Draft.isMute = true) :
    Draft.Reruns (n.draft (g.switch c false)) (n.draft (g.switch c true)) := by
  refine draft_switch .refl CreateTable.reruns_switch Draft.reruns_primaryKey
    Draft.reruns_returning fun r hr => ?_
  rw [leftOut, hr] at h
  exact r.reruns_switch h

theorem Node.weight_switch_le :
    (n.draft (g.switch c false)).weight ≤ (n.draft (g.switch c true)).weight := by
  refine draft_switch (R := fun d e => d.weight ≤ e.weight) (fun d => Nat.le_refl _)
    CreateTable.weight_switch_le Draft.weight_primaryKey_le Draft.weight_returning_le
    fun r _ => ?_
  rw [r.weight_switch]
  exact Nat.le_add_right _ _

/-- A removal that leaves out something with text writes less. -/
theorem Node.weight_switch_lt (h : (n.leftOut c g).all Draft.isBlank = false) :
    (n.draft (g.switch c false)).weight < (n.draft (g.switch c true)).weight := by
  cases hr : n.removal? g with
  | none =>
      rw [leftOut, hr] at h
      cases h
  | some r =>
      rw [leftOut, hr] at h
      have hpositive : Segment.weight (Draft.spaced (r.leftOut c)) ≠ 0 := by
        rw [Ne, Draft.weight_spaced_eq_zero]
        exact ne_true_of_eq_false h
      rw [draft_removal ((n.removal?_switch false).trans hr),
        draft_removal ((n.removal?_switch true).trans hr), r.weight_switch]
      omega

end Switch

/-! ## Trees with and without the capability -/

section Trees

variable {c : Capability} {g : Grammar}

/-- Trees go from node to node: what a relation needs to know of the capability is what it does to
one node. -/
theorem Likeness.switch {L : Likeness} (fit : L.fits (g.switch c false)) (text : ∀ s, L.text s s)
    (refl : ∀ d, L.draft d d) (fault : ∀ f f', L.draft (.fail f) (.fail f'))
    (trans : ∀ {d d' d''}, L.draft d d' → L.draft d' d'' → L.draft d d'') {P : Expr → Prop}
    (step : ∀ n : Node Expr, P (.node n) →
      L.draft ((n.map (Expr.piece (g.switch c true))).draft (g.switch c false))
        ((n.map (Expr.piece (g.switch c true))).draft (g.switch c true)))
    {e : Expr} (h : e.Everywhere P) :
    L.piece (g.switch c false) (e.piece (g.switch c false)) (e.piece (g.switch c true)) := by
  induction h with
  | @intro e here _ ih =>
      cases e with
      | value v => exact Likeness.ofValue fun s _ => text s
      | sequence isTuple items =>
          rw [Expr.piece_sequence, Expr.piece_sequence]
          exact ⟨L.of_fail _, .items (Likeness.pieces_map ih).drafts, fun _ => L.of_fail _⟩
      | node n =>
          have hnode := Likeness.node fit ih (labels_nothing text refl fault n)
          rw [Node.relabel_nothing] at hnode
          rw [Expr.piece_node, Expr.piece_node]
          refine ⟨trans hnode.draft (step n here), ?_, fun _ => fault _ _⟩
          have hshape := hnode.shape
          rw [Node.piece, Node.piece, Node.shape_switch, Node.shape_switch] at hshape ⊢
          exact hshape

namespace Expr

/-- Whether the root of a tree leaves nothing out without a warning. -/
def LosesNothing (c : Capability) (g : Grammar) (e : Expr) : Prop :=
  (e.leftOut c g).all Draft.isMute = true

/-- **Nothing is lost in silence but by removals.** A tree in which no removal leaves anything out
runs alike with and without the capability, as long as there is no warning without it. -/
theorem reruns_switch {e : Expr} (h : e.Everywhere (LosesNothing c g)) :
    Draft.Reruns (e.draft (g.switch c false)) (e.draft (g.switch c true)) :=
  (Likeness.switch (Likeness.quiet_fits _) (fun _ => rfl) Draft.Reruns.refl
    (fun _ _ => .of_not_silent rfl _) Draft.Reruns.trans (fun _ => Node.reruns_switch) h).draft

theorem piece_switch_heavier (e : Expr) :
    Likeness.heavier.piece (g.switch c false) (e.piece (g.switch c false))
      (e.piece (g.switch c true)) :=
  Likeness.switch (P := fun _ => True) (Likeness.heavier_fits _) (fun _ => rfl)
    (fun _ => Nat.le_refl _) (fun _ _ => Nat.le_refl _) Nat.le_trans
    (fun _ _ => Node.weight_switch_le) (.of_forall (fun _ => trivial) e)

/-- A removal that leaves out something with text writes less. -/
theorem weight_switch_lt {e : Expr} (h : (e.leftOut c g).all Draft.isBlank = false) :
    (e.draft (g.switch c false)).weight < (e.draft (g.switch c true)).weight := by
  cases e with
  | value v => cases h
  | sequence isTuple items => cases h
  | node n =>
      have hparts := Likeness.node_draft (fun x _ => piece_switch_heavier x)
        (Likeness.heavier_fits _) (Likeness.heavier_labels (g.switch c false) _ _ n)
      rw [Node.relabel_nothing] at hparts
      rw [draft_node, draft_node]
      exact Nat.lt_of_le_of_lt hparts (Node.weight_switch_lt h)

end Expr

end Trees

end SqlRender
