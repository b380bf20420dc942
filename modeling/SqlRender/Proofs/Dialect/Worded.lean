import SqlRender.Proofs.Dialect.Legible

/-!
# Dialects with words

Where a dialect has a word for something, the word is not empty. So text is missing from a query
only where the dialect has no word at all. This is so for the built-in dialects.
-/

namespace SqlRender

/-- A legible grammar whose words are not empty. -/
structure Grammar.Worded (g : Grammar) : Prop extends g.Legible where
  visible : ∀ w ∈ g.words, w ≠ ""

namespace Grammar.Worded

variable {g : Grammar} (worded : g.Worded)

include worded

theorem booleanText_ne (b : Bool) : g.booleanText b ≠ "" := by
  cases b <;> exact worded.visible _ (by simp [Grammar.words])

theorem defaultWord_ne : g.defaultWord ≠ "" :=
  worded.visible _ (by simp [Grammar.words])

theorem ownTypeName_ne {kind : DataKind} {name : String} (h : g.ownTypeName kind = some name) :
    name ≠ "" :=
  worded.visible _ (mem_words_of_ownTypeName h)

theorem typeKeyword_ne {word : String} (h : g.alterTable.typeKeyword = some word) : word ≠ "" :=
  worded.visible _ (by simp [Grammar.words, h])

theorem sharedLock_ne {word : String} (h : g.sharedLock = some word) : word ≠ "" :=
  worded.visible _ (by simp [Grammar.words, h])

theorem exclusiveLock_ne {word : String} (h : g.exclusiveLock = some word) : word ≠ "" :=
  worded.visible _ (by simp [Grammar.words, h])

theorem quoteIdentifier_ne (s : String) : g.quoteIdentifier s ≠ "" := by
  obtain ⟨m, hm, -⟩ := worded.identifierMark
  exact Text.quote_ne hm s

theorem quoteString_ne (s : String) : g.quoteString s ≠ "" := by
  obtain ⟨m, hm, -⟩ := worded.stringMark
  exact Text.quote_ne hm s

end Grammar.Worded

namespace Dialect

theorem worded_builtin {d : Dialect} (h : d ∈ builtin) : d.Worded := by
  refine ⟨legible_builtin h, ?_⟩
  simp only [builtin, List.mem_cons, List.not_mem_nil, or_false] at h
  rcases h with rfl | rfl | rfl | rfl <;> decide

/-- The dialects that are at hand without a registration, each with the placeholders of any
driver. -/
def IsBuiltin (d : Dialect) : Prop :=
  ∃ base ∈ builtin, ∃ style, base.withParamStyle style = .ok d

theorem isBuiltin_of_mem {d : Dialect} (h : d ∈ builtin) : d.IsBuiltin := by
  refine ⟨d, h, d.paramStyle, ?_⟩
  simp only [builtin, List.mem_cons, List.not_mem_nil, or_false] at h
  rcases h with rfl | rfl | rfl | rfl <;> rfl

theorem isBuiltin_generic : generic.IsBuiltin :=
  isBuiltin_of_mem (by simp [builtin])

theorem isBuiltin_sqlite : sqlite.IsBuiltin :=
  isBuiltin_of_mem (by simp [builtin])

theorem isBuiltin_mysql : mysql.IsBuiltin :=
  isBuiltin_of_mem (by simp [builtin])

theorem IsBuiltin.worded {d : Dialect} (h : d.IsBuiltin) : d.Worded := by
  obtain ⟨base, hbase, style, hstyle⟩ := h
  exact (withParamStyle_eq hstyle).1 ▸ worded_builtin hbase

/-- Placeholders are never empty. -/
theorem IsBuiltin.placeholder_ne {d : Dialect} (h : d.IsBuiltin) (position : Int) :
    d.placeholder position ≠ "" := by
  obtain ⟨base, -, style, hstyle⟩ := h
  rcases Placeholder.eq_of_style? (withParamStyle_eq hstyle).2 with h | h | h | h <;> rw [h]
  · simp [Placeholder.qmark]
  · simp [Placeholder.numeric]
  · simp [Placeholder.dollar]
  · simp [Placeholder.format]

end Dialect

end SqlRender
