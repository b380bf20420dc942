import SqlRender.Proofs.Database.Filters
import SqlRender.Proofs.Expr.Capability

/-!
# Databases with fewer capabilities

A dialect that lacks a capability has to leave out what was asked of it, and should say so. The main
statement is `Database.render_switch_of_quiet`: where a query comes without a warning, the same
report comes with the capability, but for removals. A removal of a table, an index or a trigger
leaves out `IF EXISTS` without a warning, and the first two leave out their behavior, so that each
of them is another statement with the capability.
-/

namespace SqlRender

namespace Database

/-- A database whose dialect has or lacks a capability. -/
def switch (c : Capability) (on : Bool) (db : Database) : Database :=
  { db with dialect := db.dialect.switch c on }

variable {db : Database} {c : Capability} {elapsed : Float} {e : Expr} {q : RenderedQuery}

theorem render_switch (h : ((db.switch c false).render elapsed e).outcome = .ok q)
    (quiet : ((db.switch c false).render elapsed e).warnings = [])
    (keeps : e.Everywhere (Expr.LosesNothing c db.dialect.toGrammar)) (elapsed' : Float) :
    (db.switch c true).render elapsed' e = (db.switch c false).render elapsed' e := by
  have hsilent : (e.draft (db.dialect.toGrammar.switch c false)).isSilent = true :=
    isSilent_draft h quiet
  have hrun : e.render (db.dialect.switch c true) = e.render (db.dialect.switch c false) :=
    (Expr.reruns_switch keeps hsilent).2 db.dialect.placeholder
  have hstate : e.render (db.switch c true).dialect {} = e.render (db.switch c false).dialect {} :=
    congrFun hrun {}
  unfold render
  rw [hstate]
  rfl

/-- **Nothing is left out in silence but by removals.** If a query comes without a warning where the
dialect lacks a capability, then the same report comes with the capability, whatever the time taken,
provided that no removal in the tree leaves anything out; for columns that are given back and for
keys that are filled in by themselves there is nothing to provide. A removal that leaves out
something with text gives another query with the capability, or none. -/
theorem render_switch_of_quiet (h : ((db.switch c false).render elapsed e).outcome = .ok q)
    (quiet : ((db.switch c false).render elapsed e).warnings = []) :
    (e.Everywhere (Expr.LosesNothing c db.dialect.toGrammar) → ∀ elapsed',
        (db.switch c true).render elapsed' e = (db.switch c false).render elapsed' e) ∧
      (c = .returning ∨ c = .autoIncrement → ∀ elapsed',
        (db.switch c true).render elapsed' e = (db.switch c false).render elapsed' e) ∧
      ((∀ n : Nat, db.dialect.placeholder (n + 1) ≠ "") →
        (e.leftOut c db.dialect.toGrammar).all Draft.isBlank = false → ∀ elapsed',
        ((db.switch c true).render elapsed' e).outcome ≠ .ok q) := by
  refine ⟨render_switch h quiet, fun hwarned => ?_, fun visible hleft elapsed' h' => ?_⟩
  · refine render_switch h quiet (.of_forall (fun x => ?_) e)
    rw [Expr.LosesNothing, Expr.leftOut_eq_nil hwarned]
    rfl
  · have visible (on : Bool) (n : Nat) : (db.switch c on).dialect.placeholder (n + 1) ≠ "" :=
      visible n
    obtain ⟨hsql, hbinds⟩ := outcome_segments (visible false) h
    obtain ⟨hsql', hbinds'⟩ := outcome_segments (visible true) h'
    have hweight := Segment.weight_eq_of_write (hsql.symm.trans hsql') (hbinds.symm.trans hbinds')
    exact absurd hweight (Nat.ne_of_lt (Expr.weight_switch_lt hleft))

end Database

/-- The removal of a table, or of a table if there is one. -/
def Expr.tableRemoval (guarded : Bool) : Expr :=
  .node (.dropTable
    { table := .node (.identifier "t")
      ifExists := .bool guarded
      behavior := absent })

theorem Expr.ending_tableRemoval (guarded : Bool) :
    Rendering.ending ((tableRemoval guarded).render (Dialect.generic.switch .ifExists false) {}) =
      (.ok ⟨"DROP TABLE \"t\"", []⟩, []) := by
  simp only [tableRemoval, absent, render, draft, piece_node, piece_value, Node.map, DropTable.map]
  cases guarded <;> cbv

/-- Without a guard the removal is the same where guards are not known. With one it is the same as
without, in silence, and so it differs from what is given where guards are known. -/
theorem Database.render_switch_of_quiet_guarded :
    (∀ elapsed, (switch .ifExists true { dialect := .generic }).render elapsed
        (Expr.tableRemoval false) =
          (switch .ifExists false { dialect := .generic }).render elapsed
            (Expr.tableRemoval false)) ∧
      ((switch .ifExists false { dialect := .generic }).render 0 (Expr.tableRemoval true)).outcome =
        .ok ⟨"DROP TABLE \"t\"", []⟩ ∧
      ((switch .ifExists false { dialect := .generic }).render 0
        (Expr.tableRemoval true)).warnings = [] ∧
      ∀ elapsed, ((switch .ifExists true { dialect := .generic }).render elapsed
        (Expr.tableRemoval true)).outcome ≠ .ok ⟨"DROP TABLE \"t\"", []⟩ := by
  have hending (guarded : Bool) := Database.render_ending
    (switch .ifExists false { dialect := .generic }) 0 (Expr.tableRemoval guarded)
  have hdialect : (switch .ifExists false { dialect := .generic }).dialect =
      Dialect.generic.switch .ifExists false := rfl
  simp only [hdialect, Expr.ending_tableRemoval, Prod.mk.injEq] at hending
  have plain := Database.render_switch_of_quiet (hending false).1 (hending false).2
  have guarded := Database.render_switch_of_quiet (hending true).1 (hending true).2
  refine ⟨plain.1 ?_, (hending true).1, (hending true).2, guarded.2.2 ?_ ?_⟩
  · simp [Expr.tableRemoval, Expr.absent, Node.parts, DropTable.parts, Expr.LosesNothing,
      Expr.leftOut, Node.leftOut, Node.removal?, Node.map, DropTable.map, Removal.leftOut,
      Draft.wordIf, Flag.holds]
  · exact fun n => Dialect.isBuiltin_generic.placeholder_ne (n + 1)
  · simp [Expr.tableRemoval, Expr.leftOut, Node.leftOut, Node.removal?, Node.map, DropTable.map,
      Removal.leftOut, Draft.wordIf, Flag.holds, Draft.isBlank_text]

end SqlRender
