import SqlRender.Proofs.Dialect.Legible
import SqlRender.Proofs.Expr.Verbatim
import SqlRender.Proofs.Likeness.Tree
import SqlRender.Proofs.Render.Segments

/-!
# Texts of a kind

What holds of all texts that a tree writes. A kind of texts has the fixed words of queries in it,
and with two texts the one that they make together. If what a tree writes as it is and the quoted
tokens for what it quotes are of the kind, then so is every text segment of the tree
(`Expr.segments_kind`). This is a likeness of a tree to itself.
-/

namespace SqlRender

/-- A kind of texts in a grammar, together with the texts that it is safe to quote. -/
structure TextKind (g : Grammar) where
  holds : String → Prop
  inside : String → Prop
  plain {s : String} : Text.isPlain s = true → holds s
  append {s t : String} : holds s → holds t → holds (s ++ t)
  identifier {s : String} : inside s → holds (g.quoteIdentifier s)
  string {s : String} : inside s → holds (g.quoteString s)
  kept {s : String} : inside s → inside (g.keptConstraintName s)
  path {keys : List String} : (∀ k ∈ keys, inside k) → inside ("$." ++ ".".intercalate keys)

/-- What a tree must have at its root so that it writes texts of a kind only. -/
structure TextKind.Fits {g : Grammar} (K : TextKind g) (e : Expr) : Prop where
  verbatim : ∀ s ∈ e.verbatim, K.holds s
  quoted : ∀ s ∈ e.quotedTexts, K.inside s
  keyword : ∀ k, e = .node (.keyword k) → K.holds k.text

/-- Every text segment of a draft is of a kind. -/
def Draft.Writes (P : String → Prop) (d : Draft) : Prop :=
  ∀ s, Segment.text s ∈ d.segments → P s

/-- What is joined comes from the items or is a separator. -/
theorem Segment.mem_joined {separator : String} {first : Bool} {items : List (List Segment)}
    {x : Segment} (h : x ∈ joined separator first items) :
    x = .text separator ∨ ∃ item ∈ items, x ∈ item := by
  induction items generalizing first with
  | nil => cases h
  | cons item items ih =>
      have later {first : Bool} (h : x ∈ joined separator first items) :
          x = .text separator ∨ ∃ item' ∈ item :: items, x ∈ item' := by
        rcases ih h with hx | ⟨item', hmem, hx⟩
        · exact .inl hx
        · exact .inr ⟨item', List.mem_cons_of_mem _ hmem, hx⟩
      rw [joined] at h
      split at h
      · exact later h
      · rw [List.mem_append, List.mem_append] at h
        rcases h with (h | h) | h
        · split at h
          · cases h
          · exact .inl (List.mem_singleton.1 h)
        · exact .inr ⟨item, List.mem_cons_self, h⟩
        · exact later h

namespace TextKind

variable {g : Grammar} (K : TextKind g)

theorem mem_of_forall₂ {P : Draft → Prop} {ds es : List Draft}
    (h : List.Forall₂ (fun d _ => P d) ds es) : ∀ d ∈ ds, P d := by
  induction h with
  | nil => exact List.forall_mem_nil _
  | cons hd _ ih => exact List.forall_mem_cons.2 ⟨hd, ih⟩

/-- Drafts whose texts are of a kind, each compared with anything at all. -/
def likeness : Likeness where
  text s _ := K.holds s
  draft d _ := d.Writes K.holds
  plain := K.plain
  of_text h := by
    intro t ht
    rw [Draft.segments, List.mem_singleton] at ht
    cases ht
    exact h
  of_warn _ := by
    intro s hs
    cases hs
  of_fail _ := by
    intro s hs
    cases hs
  of_seq h := by
    intro s hs
    rw [Draft.segments, Draft.segmentLists_eq, List.mem_flatten] at hs
    obtain ⟨segments, hmem, hs⟩ := hs
    obtain ⟨d, hd, rfl⟩ := List.mem_map.1 hmem
    exact mem_of_forall₂ h d hd s hs
  of_join hseparator h := by
    intro s hs
    rw [Draft.segments, Draft.segmentLists_eq] at hs
    rcases Segment.mem_joined hs with heq | ⟨segments, hmem, hs⟩
    · cases heq
      cases hseparator with
      | text hseparator => exact hseparator
      | stray =>
          show K.holds ""
          exact K.plain (by decide)
    · obtain ⟨d, hd, rfl⟩ := List.mem_map.1 hmem
      exact mem_of_forall₂ h d hd s hs
  of_clause hword h := by
    intro s hs
    rw [Draft.segments] at hs
    split at hs
    · cases hs
    · rcases List.mem_cons.1 hs with heq | hs
      · cases heq
        exact K.append hword (K.plain (by decide))
      · exact h s hs

variable {K}

theorem likeness_written {w : Wording} (h : ∀ s, w = .text s → K.holds s) :
    K.likeness.draft w.written w.written := by
  cases w with
  | text s => exact K.likeness.of_text (h s rfl)
  | other o =>
      unfold Wording.written
      simp only
      split
      · intro s hs
        cases hs
      · exact K.likeness.of_seq .nil

theorem likeness_quoted {quote : String → String} {w : Wording}
    (h : ∀ s, w = .text s → K.holds (quote s)) :
    K.likeness.draft (w.quoted quote) (w.quoted quote) := by
  unfold Wording.quoted
  split
  · exact K.likeness.of_text (h _ rfl)
  · exact K.likeness.of_fail _
  · exact K.likeness.of_fail _
  · exact K.likeness.of_fail _

theorem likeness_literal (legible : g.Legible) {l : Literal} (h : K.Fits (.node (.literal l))) :
    K.likeness.draft (l.draft g) (l.draft g) := by
  obtain ⟨kind, value⟩ := l
  cases kind with
  | string =>
      refine likeness_quoted fun s hs => K.string (h.quoted s ?_)
      cases Wording.eq_of_ofOutline hs
      exact List.mem_singleton_self s
  | numeric =>
      refine likeness_written fun s hs => h.verbatim s ?_
      cases Wording.eq_of_ofOutline hs
      exact List.mem_singleton_self s
  | boolean => exact Likeness.text_plain (legible.booleanText _)
  | null => exact Likeness.text_plain (by decide)
  | all => exact Likeness.text_plain (by decide)
  | default => exact Likeness.text_plain legible.defaultWord

theorem likeness_keyword (legible : g.Legible) {k : Keyword} (h : K.holds k.text) :
    K.likeness.draft (Node.keywordDraft g k) (Node.keywordDraft g k) := by
  unfold Node.keywordDraft
  split
  · exact K.likeness.of_warn _
  · rename_i clause
    obtain ⟨word, hword, hplain⟩ := legible.lock clause
    rw [hword]
    exact Likeness.text_plain hplain
  · exact K.likeness.of_fail _
  · exact K.likeness.of_text h

theorem likeness_counts (legible : g.Legible) {limit offset : Outline}
    (h : ∀ s ∈ limit.countText ++ offset.countText, K.holds s) :
    K.likeness.drafts (limitOffset g limit offset) (limitOffset g limit offset) := by
  rw [List.forall_mem_append] at h
  have count {word n : String} (hword : Text.isPlain word = true) (hn : K.holds n) :
      K.likeness.drafts [.text word, .text n] [.text word, .text n] :=
    Likeness.drafts.word hword (Likeness.drafts_single (K.likeness.of_text hn))
  have given {o : Outline} {n : String} (hn : n ∈ o.countText ∨ Text.isPlain n = true)
      (h : ∀ s ∈ o.countText, K.holds s) : K.holds n := by
    rcases hn with hmem | hplain
    · exact h n hmem
    · exact K.plain hplain
  unfold limitOffset
  refine Likeness.drafts.append ?_ ?_
  · split
    · rename_i n hn
      exact count (by decide) (given (Outline.mem_countText_or_isPlain hn) h.1)
    · split
      · rename_i hn
        exact count (by decide) (K.plain (legible.offsetWithoutLimit hn))
      · exact .nil
  · split
    · rename_i n hn
      exact count (by decide) (given (Outline.mem_countText_or_isPlain hn) h.2)
    · exact .nil

/-- A path is quoted, key by key or as a whole. -/
theorem likeness_path {keys : List Wording} (h : ∀ s ∈ keys.filterMap Wording.text?, K.inside s) :
    K.likeness.path g keys keys where
  quoted := by
    induction keys with
    | nil => exact .nil
    | cons key keys ih =>
        refine .cons (likeness_quoted fun s hs => K.string (h s ?_)) (ih fun s hs => h s ?_)
        · rw [hs]
          exact List.mem_cons_self
        · obtain ⟨w, hw, hs⟩ := List.mem_filterMap.1 hs
          exact List.mem_filterMap.2 ⟨w, List.mem_cons_of_mem _ hw, hs⟩
  joined := by
    cases htexts : Wording.texts 0 keys with
    | error fault => exact .inl ⟨fault, rfl, rfl⟩
    | ok texts =>
        rw [Wording.filterMap_text? htexts] at h
        exact .inr ⟨texts, texts, rfl, rfl, K.likeness.of_text (K.string (K.path h))⟩

theorem likeness_labels (legible : g.Legible) {e : Expr} (h : K.Fits e) :
    K.likeness.rootLabels g {} e := by
  cases e with
  | value v =>
      rintro s rfl
      exact h.verbatim s (List.mem_singleton_self s)
  | sequence isTuple items => trivial
  | node n =>
      cases n with
      | raw sql =>
          refine likeness_written fun s hs => h.verbatim s ?_
          rw [hs]
          exact List.mem_singleton_self s
      | identifier name =>
          have inside {s : String} (hs : name = .text s) : K.inside s := by
            refine h.quoted s ?_
            rw [hs]
            exact List.mem_singleton_self s
          refine ⟨likeness_quoted fun s hs => K.identifier (inside hs), ?_⟩
          cases name with
          | text s => exact .identifier (K.identifier (K.kept (inside rfl)))
          | other o => exact .nameless rfl rfl
      | literal l => exact likeness_literal legible h
      | bind value =>
          intro s hs
          rw [Draft.segments, List.mem_singleton] at hs
          cases hs
      | keyword k => exact likeness_keyword legible (h.keyword k rfl)
      | list items separator =>
          show Separator.Alike _ separator.separator separator.separator
          cases separator with
          | text s => exact .text (h.verbatim s (List.mem_singleton_self s))
          | other o =>
              unfold Wording.separator
              simp only
              split
              · exact .stray _
              · exact .text (K.plain (by decide))
      | call name args =>
          refine likeness_written fun s hs => h.verbatim s ?_
          rw [hs]
          exact List.mem_singleton_self s
      | clause word body => exact h.verbatim _ (List.mem_singleton_self _)
      | subpath target path =>
          show K.likeness.path g path (path.map id)
          rw [List.map_id]
          exact likeness_path h.quoted
      | select s => exact likeness_counts legible h.verbatim
      | union u => exact likeness_counts legible h.verbatim
      | unionJoiner operator =>
          show K.likeness.draft (Likeness.noOperator _) _
          unfold Likeness.noOperator
          split <;> exact K.likeness.of_fail _
      | _ => trivial

end TextKind

/-- Every text that a tree writes is of a kind, if the texts at its nodes are. -/
theorem Expr.segments_kind {g : Grammar} (K : TextKind g) (legible : g.Legible) {e : Expr}
    (h : e.Everywhere K.Fits) {s : String} (hs : Segment.text s ∈ e.segments g) : K.holds s :=
  (Likeness.tree (legible.fits K.likeness) (h.mono (TextKind.likeness_labels legible))).draft s hs

end SqlRender
