import SqlRender.Proofs.Dialect.Worded
import SqlRender.Proofs.Render.Tidy
import SqlRender.Proofs.Text.Quoting

/-!
# Tidy dialects

The words that a dialect brings along have no stray spaces, its marks are no spaces, and the name
under which it keeps a constraint has a space only if the given name has one. This is so for the
built-in dialects, and no placeholder of a driver has a space in it.
-/

namespace SqlRender

open Text

/-- A grammar with words that have no stray spaces. -/
structure Grammar.Tidy (g : Grammar) : Prop extends g.Worded where
  spacing : ∀ w ∈ g.words, IsTidy w
  kept {name : String} : ' ' ∉ name.toList → ' ' ∉ (g.keptConstraintName name).toList

namespace Grammar.Tidy

variable {g : Grammar} (tidy : g.Tidy)

include tidy

theorem booleanText (b : Bool) : IsTidy (g.booleanText b) := by
  cases b <;> exact tidy.spacing _ (by simp [Grammar.words])

theorem defaultWord : IsTidy g.defaultWord :=
  tidy.spacing _ (by simp [Grammar.words])

theorem ownTypeName {kind : DataKind} {name : String} (h : g.ownTypeName kind = some name) :
    IsTidy name :=
  tidy.spacing _ (mem_words_of_ownTypeName h)

theorem typeKeyword {word : String} (h : g.alterTable.typeKeyword = some word) : IsTidy word :=
  tidy.spacing _ (by simp [Grammar.words, h])

theorem modifyVerb : IsTidy g.alterTable.modifyVerbOrFallback :=
  tidy.spacing _ (by simp [Grammar.words])

theorem offsetWithoutLimit {word : String} (h : g.offsetWithoutLimit = some word) : IsTidy word :=
  tidy.spacing _ (by simp [Grammar.words, h])

theorem quoteIdentifier {s : String} (h : ' ' ∉ s.toList) : IsTidy (g.quoteIdentifier s) := by
  obtain ⟨m, hm, hmark⟩ := tidy.identifierMark
  refine isTidy_of_not_mem (not_mem_quote hm ?_ h)
  rcases hmark with rfl | rfl | rfl <;> decide

theorem quoteString {s : String} (h : ' ' ∉ s.toList) : IsTidy (g.quoteString s) := by
  obtain ⟨m, hm, hmark⟩ := tidy.stringMark
  refine isTidy_of_not_mem (not_mem_quote hm ?_ h)
  rcases hmark with rfl | rfl | rfl <;> decide

end Grammar.Tidy

namespace Dialect

theorem tidy_builtin {d : Dialect} (h : d ∈ builtin) : d.Tidy := by
  refine ⟨worded_builtin h, ?_, not_mem_keptConstraintName h (by decide)⟩
  simp only [builtin, List.mem_cons, List.not_mem_nil, or_false] at h
  rcases h with rfl | rfl | rfl | rfl <;> decide

theorem IsBuiltin.tidy {d : Dialect} (h : d.IsBuiltin) : d.Tidy := by
  obtain ⟨base, hbase, style, hstyle⟩ := h
  exact (withParamStyle_eq hstyle).1 ▸ tidy_builtin hbase

/-- Placeholders have no spaces in them. -/
theorem IsBuiltin.placeholders_areTidy {d : Dialect} (h : d.IsBuiltin) :
    Placeholder.AreTidy d.placeholder := by
  refine ⟨fun n => h.placeholder_ne _, fun n => isTidy_of_not_mem ?_⟩
  obtain ⟨base, -, style, hstyle⟩ := h
  have number := not_mem_intToString (c := ' ') (by decide) (by decide) ((n : Int) + 1)
  rcases Placeholder.eq_of_style? (withParamStyle_eq hstyle).2 with h | h | h | h <;> rw [h]
  · simp [Placeholder.qmark]
  · simpa [Placeholder.numeric] using number
  · simpa [Placeholder.dollar] using number
  · simp [Placeholder.format]

end Dialect

end SqlRender
