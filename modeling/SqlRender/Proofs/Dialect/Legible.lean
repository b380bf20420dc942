import SqlRender.Dialect.Registry
import SqlRender.Proofs.Likeness.Schema
import SqlRender.Proofs.Text.Scanner

/-!
# Legible dialects

A reader of quoted tokens finds its way through what a dialect brings along: the marks have one
character each, and neither the dialect's own words nor its placeholders have marks in them. This is
so for the built-in dialects with every style of placeholders.
-/

namespace SqlRender

open Text Text.Scanner

namespace Grammar

/-- The characters of the marks of quoted tokens. -/
def marks (g : Grammar) : List Char :=
  g.identifierQuote.toList ++ g.stringQuote.toList

/-- The words that are written as the dialect has them. -/
def words (g : Grammar) : List String :=
  [g.booleanText true, g.booleanText false, g.defaultWord, g.autoIncrementClause,
    g.alterTable.modifyVerbOrFallback] ++
  (g.autoIncrementFunction.toList ++ g.sharedLock.toList ++ g.exclusiveLock.toList ++
    g.offsetWithoutLimit.toList ++ g.alterTable.typeKeyword.toList) ++
  (Named.all.filterMap g.ownTypeName)

theorem mem_words_of_ownTypeName {g : Grammar} {kind : DataKind} {name : String}
    (h : g.ownTypeName kind = some name) : name ∈ g.words := by
  have hmem : name ∈ Named.all.filterMap g.ownTypeName :=
    List.mem_filterMap.2 ⟨kind, by cases kind <;> decide, h⟩
  simp [words, hmem]

/-- A grammar with quotation marks of one character and with plain words. -/
structure Legible (g : Grammar) : Prop where
  identifierMark : ∃ m, g.identifierQuote.toList = [m] ∧ (m = '\'' ∨ m = '"' ∨ m = '`')
  stringMark : ∃ m, g.stringQuote.toList = [m] ∧ (m = '\'' ∨ m = '"' ∨ m = '`')
  words : ∀ w ∈ g.words, isPlain w = true

namespace Legible

variable {g : Grammar} (legible : g.Legible)

include legible

theorem marks : ∀ m ∈ g.marks, m = '\'' ∨ m = '"' ∨ m = '`' := by
  obtain ⟨i, hi, himark⟩ := legible.identifierMark
  obtain ⟨s, hs, hsmark⟩ := legible.stringMark
  intro m hm
  unfold Grammar.marks at hm
  rw [hi, hs, List.mem_append, List.mem_singleton, List.mem_singleton] at hm
  rcases hm with rfl | rfl
  · exact himark
  · exact hsmark

/-- A plain text is balanced for the reader of a legible grammar. -/
theorem balanced {s : String} (h : isPlain s = true) : Balanced g.marks s :=
  balanced_of_isPlain legible.marks h

/-- Names that are quoted cannot be told apart. -/
theorem identifier (s t : String) :
    SeenAlike g.marks (g.quoteIdentifier s) (g.quoteIdentifier t) := by
  obtain ⟨m, hm, -⟩ := legible.identifierMark
  have hmem : m ∈ g.identifierQuote.toList := hm ▸ List.mem_singleton_self m
  exact quote_seenAlike hm (List.mem_append_left _ hmem) s t

/-- Texts that are quoted cannot be told apart. -/
theorem string (s t : String) : SeenAlike g.marks (g.quoteString s) (g.quoteString t) := by
  obtain ⟨m, hm, -⟩ := legible.stringMark
  have hmem : m ∈ g.stringQuote.toList := hm ▸ List.mem_singleton_self m
  exact quote_seenAlike hm (List.mem_append_right _ hmem) s t

theorem booleanText (b : Bool) : isPlain (g.booleanText b) = true := by
  cases b with
  | true => exact legible.words _ (by simp [Grammar.words])
  | false => exact legible.words _ (by simp [Grammar.words])

theorem defaultWord : isPlain g.defaultWord = true :=
  legible.words _ (by simp [Grammar.words])

theorem offsetWithoutLimit {word : String} (h : g.offsetWithoutLimit = some word) :
    isPlain word = true :=
  legible.words _ (by simp [Grammar.words, h])

theorem lock (l : LockingClause) : ∃ word, l.draft g = .text word ∧ isPlain word = true := by
  have known {words : Option String} (h : ∀ w ∈ words, isPlain w = true) :
      isPlain (words.getD "") = true := by
    cases words with
    | none => decide
    | some w => exact h w rfl
  cases l with
  | share =>
      refine ⟨_, rfl, known fun w hw => legible.words w ?_⟩
      rw [Option.mem_def] at hw
      simp [Grammar.words, hw]
  | update =>
      refine ⟨_, rfl, known fun w hw => legible.words w ?_⟩
      rw [Option.mem_def] at hw
      simp [Grammar.words, hw]

/-- The words of a legible grammar are like themselves, whatever the likeness. -/
theorem fits (L : Likeness) : L.fits g where
  primaryKey := by
    unfold Draft.primaryKey
    simp only [Bool.not_true, Bool.false_eq_true, if_false]
    split
    · exact L.of_seq (.cons (L.of_warn _)
        (Likeness.drafts_single (Likeness.text_plain (by decide))))
    · split
      · rename_i function hfunction
        have hplain : isPlain function = true :=
          legible.words _ (by simp [Grammar.words, hfunction])
        refine Likeness.text_plain ?_
        rw [isPlain_append, isPlain_append, isPlain_append, legible.defaultWord, hplain]
        decide
      · have hplain : isPlain g.autoIncrementClause = true :=
          legible.words _ (by simp [Grammar.words])
        refine Likeness.text_plain ?_
        rw [isPlain_append, hplain]
        decide
  typeName h := L.plain (legible.words _ (mem_words_of_ownTypeName h))
  modifyVerb := L.plain (legible.words _ (by simp [Grammar.words]))
  typeKeyword {word} h := L.plain (legible.words _ (by simp [Grammar.words, h]))

end Legible

end Grammar

/-- Every keyword is listed. -/
theorem Keyword.mem_all (k : Keyword) : k ∈ all := by
  cases k with
  | operator k => cases k <;> decide
  | direction k => cases k <;> decide
  | foreignKeyAction k => cases k <;> decide
  | dropBehavior k => cases k <;> decide
  | joinMethod k => cases k <;> decide
  | locking k => cases k <;> decide
  | setOperation k => cases k <;> decide
  | triggerTime k => cases k <;> decide
  | triggerEvent k => cases k <;> decide
  | triggerTiming k => cases k <;> decide
  | triggerEach k => cases k <;> decide
  | triggerOrder k => cases k <;> decide

/-- Keywords have no quotation marks. -/
theorem Keyword.isUnmarked_text (k : Keyword) : isUnmarked k.text = true := by
  have listed : ∀ k ∈ all, isUnmarked k.text = true := by decide
  exact listed k k.mem_all

theorem Sha1.not_mem_hexDigest {c : Char} (h : c ∉ hexDigits) (message : List UInt8) :
    c ∉ (hexDigest message).toList := by
  have word (n : Nat) : c ∉ (hex 8 n).toList := fun hc => h (mem_hexDigits_of_mem_hex hc)
  simp only [hexDigest, String.toList_append, List.mem_append, word, or_self, not_false_eq_true]

namespace Dialect

/-- The dialects that are at hand without a registration. -/
def builtin : List Dialect :=
  [generic, sqlite, postgresql, mysql]

theorem legible_builtin {d : Dialect} (h : d ∈ builtin) : d.Legible := by
  simp only [builtin, List.mem_cons, List.not_mem_nil, or_false] at h
  rcases h with rfl | rfl | rfl | rfl
  · exact ⟨⟨'"', by decide⟩, ⟨'\'', by decide⟩, by decide⟩
  · exact ⟨⟨'"', by decide⟩, ⟨'\'', by decide⟩, by decide⟩
  · exact ⟨⟨'"', by decide⟩, ⟨'\'', by decide⟩, by decide⟩
  · exact ⟨⟨'`', by decide⟩, ⟨'\'', by decide⟩, by decide⟩

/-- Long names may be replaced by digests, which have nothing but digits in them. -/
theorem not_mem_keptConstraintName {d : Dialect} (h : d ∈ builtin) {c : Char} (hc : c ∉ hexDigits)
    {name : String} (hname : c ∉ name.toList) : c ∉ (d.keptConstraintName name).toList := by
  simp only [builtin, List.mem_cons, List.not_mem_nil, or_false] at h
  rcases h with rfl | rfl | rfl | rfl
  · exact hname
  · exact hname
  · exact hname
  · show c ∉ (digestLongNames.keep name).toList
    unfold NameLimit.keep
    split
    · exact Sha1.not_mem_hexDigest hc _
    · exact hname

/-- A style of placeholders is all that a dialect takes from its driver. -/
theorem withParamStyle_eq {base d : Dialect} {style : String}
    (h : base.withParamStyle style = .ok d) :
    d.toGrammar = base.toGrammar ∧ Placeholder.style? style = some d.placeholder := by
  unfold withParamStyle at h
  split at h
  · rename_i p hp
    cases h
    exact ⟨rfl, hp⟩
  · cases h

end Dialect

/-- There are four ways to write a placeholder. -/
theorem Placeholder.eq_of_style? {style : String} {p : Int → String} (h : style? style = some p) :
    p = qmark ∨ p = numeric ∨ p = dollar ∨ p = format := by
  obtain ⟨before, after, hstyles, -⟩ := List.lookup_eq_some_iff.1 h
  have hp : p ∈ styles.map (·.2) := by
    rw [hstyles]
    simp
  simpa [styles] using hp

/-- No placeholder of a driver has a quotation mark in it. -/
theorem Placeholder.balanced {marks : List Char}
    (hmarks : ∀ m ∈ marks, m = '\'' ∨ m = '"' ∨ m = '`') {style : String} {p : Int → String}
    (h : style? style = some p) (position : Int) : Balanced marks (p position) := by
  rcases eq_of_style? h with rfl | rfl | rfl | rfl
  · exact balanced_of_isPlain hmarks (s := "?") (by decide)
  · refine balanced_of_isPlain hmarks ?_
    rw [numeric, isPlain_append, isPlain_intToString]
    decide
  · refine balanced_of_isPlain hmarks ?_
    rw [dollar, isPlain_append, isPlain_intToString]
    decide
  · exact balanced_of_isUnmarked hmarks (s := "%s") (by decide)

end SqlRender
