import Mathlib
import SqlRender.Expr.Build
import SqlRender.Proofs.Database.Report
import SqlRender.Proofs.Likeness.Texts
import SqlRender.Proofs.Text.Percent

/-!
# Percent signs in queries

Where placeholders are percent signs, a driver reads all percent signs of a query, and those in
names and texts are no exception: quoting doubles quotation marks and leaves percent signs as they
are. So a driver finds as many placeholders as there are values exactly if every text that is
written reads as having none (`Database.format_placeholders`). That is so if no name, text literal
or key has a percent sign in it. The remainder operator is a percent sign itself and is left out
here: a query with it is unreadable.
-/

namespace SqlRender

open Text Text.Percent

/-! ## Reading segments -/

/-- A placeholder is read as one. -/
theorem Text.Percent.read_format (n : Nat) (position : Int) :
    Percent.read (.text n) (Placeholder.format position).toList = .text (n + 1) := by
  simp [Placeholder.format, Percent.read, step]

namespace Segment

variable {segments : List Segment}

/-- A driver finds a placeholder for every value, and perhaps more. -/
theorem length_values_le {bound n m : Nat}
    (closed : ∀ s, Segment.text s ∈ segments → Closed s)
    (h : Percent.read (.text n) (write Placeholder.format bound segments).toList = .text m) :
    n + (values segments).length ≤ m := by
  induction segments generalizing bound n with
  | nil =>
      have heq : n = m := Place.text.inj h
      simp [heq, values]
  | cons x xs ih =>
      have hrest : ∀ s, Segment.text s ∈ xs → Closed s := fun s hs => closed s (.tail _ hs)
      cases x with
      | text s =>
          rw [write, String.toList_append, Percent.read_append] at h
          rcases (closed s (.head _)).read_eq n with ⟨k, -, hk⟩ | ⟨-, hk⟩
          · rw [hk] at h
            have hle := ih hrest h
            rw [values]
            omega
          · rw [hk, Percent.read_unreadable] at h
            cases h
      | value v =>
          rw [write, String.toList_append, Percent.read_append, read_format] at h
          have hle := ih hrest h
          rw [values, List.length_cons]
          omega

/-- A driver finds as many placeholders as there are values exactly if it finds none in the texts
between them. -/
theorem read_write_eq (closed : ∀ s, Segment.text s ∈ segments → Closed s) (bound n : Nat) :
    Percent.read (.text n) (write Placeholder.format bound segments).toList =
        .text (n + (values segments).length) ↔
      ∀ s, Segment.text s ∈ segments → placeholders? s = some 0 := by
  induction segments generalizing bound n with
  | nil => simp [write, values, Percent.read]
  | cons x xs ih =>
      have hrest : ∀ s, Segment.text s ∈ xs → Closed s := fun s hs => closed s (.tail _ hs)
      cases x with
      | text s =>
          rw [write, String.toList_append, Percent.read_append, values]
          have split : (∀ t, Segment.text t ∈ Segment.text s :: xs → placeholders? t = some 0) ↔
              placeholders? s = some 0 ∧ ∀ t, Segment.text t ∈ xs → placeholders? t = some 0 := by
            simp
          rw [split]
          rcases (closed s (.head _)).read_eq n with ⟨k, hcount, hk⟩ | ⟨hcount, hk⟩
          · rw [hk, hcount]
            cases k with
            | zero => simp [ih hrest]
            | succ k =>
                -- one placeholder too many, which no later text can take back
                constructor
                · intro h
                  have hle := length_values_le hrest h
                  omega
                · rintro ⟨h, -⟩
                  cases h
          · rw [hk, hcount, Percent.read_unreadable]
            simp
      | value v =>
          rw [write, String.toList_append, Percent.read_append, read_format, values,
            List.length_cons, ← Nat.add_assoc, Nat.add_right_comm, ih hrest]
          simp

end Segment

/-! ## Reading queries -/

/-- A dialect with percent placeholders and without percent signs of its own. -/
structure Dialect.FormatStyle (d : Dialect) : Prop where
  placeholder : d.placeholder = Placeholder.format
  legible : d.Legible
  kept {s : String} : '%' ∉ s.toList → '%' ∉ (d.keptConstraintName s).toList

/-- The built-in dialects have no percent signs of their own, and neither has the digest that a long
name is replaced by. -/
theorem Dialect.formatStyle_of_builtin {base d : Dialect} (hbase : base ∈ builtin) {style : String}
    (hstyle : style = "format" ∨ style = "pyformat") (h : base.withParamStyle style = .ok d) :
    d.FormatStyle := by
  obtain ⟨hgrammar, hplaceholder⟩ := withParamStyle_eq h
  refine ⟨?_, hgrammar ▸ legible_builtin hbase, ?_⟩
  · rcases hstyle with rfl | rfl
    · exact (Option.some.inj hplaceholder).symm
    · exact (Option.some.inj hplaceholder).symm
  · intro s hs
    rw [hgrammar]
    exact not_mem_keptConstraintName hbase (by decide) hs

/-- Whether what the root of an expression writes as it is has no percent sign in it. -/
structure Expr.Signless (e : Expr) : Prop where
  verbatim : ∀ s ∈ e.verbatim, '%' ∉ s.toList
  operator : e ≠ .node (.keyword (.operator .modulo))

theorem Expr.signless_iff {e : Expr} :
    e.Signless ↔ (∀ s ∈ e.verbatim, '%' ∉ s.toList) ∧ e ≠ .node (.keyword (.operator .modulo)) :=
  ⟨fun h => ⟨h.verbatim, h.operator⟩, fun h => ⟨h.1, h.2⟩⟩

theorem Keyword.signless_text {k : Keyword} (h : k ≠ .operator .modulo) : '%' ∉ k.text.toList := by
  have listed : ∀ k ∈ all, k ≠ .operator .modulo → '%' ∉ k.text.toList := by decide
  exact listed k k.mem_all h

/-- A quoted token ends in a mark, so no sign waits after it, whatever is in it. -/
theorem Text.Percent.closed_quote {mark : String}
    (h : ∃ m, mark.toList = [m] ∧ (m = '\'' ∨ m = '"' ∨ m = '`')) (s : String) :
    Closed (quote mark s) := by
  obtain ⟨m, hm, hquote⟩ := h
  have hlast : (quote mark s).toList = (m :: doubled m s.toList) ++ [m] := toList_quote hm s
  refine closed_of_last hlast ?_
  rcases hquote with rfl | rfl | rfl <;> decide

/-- A quoted token has no sign in it if the text has none. -/
theorem Text.Percent.not_mem_quote {mark : String}
    (h : ∃ m, mark.toList = [m] ∧ (m = '\'' ∨ m = '"' ∨ m = '`')) {s : String}
    (hs : '%' ∉ s.toList) : '%' ∉ (quote mark s).toList := by
  obtain ⟨m, hm, hquote⟩ := h
  have hmark : '%' ≠ m := by rcases hquote with rfl | rfl | rfl <;> decide
  exact Text.not_mem_quote hm hmark hs

/-- The texts after which no sign waits. Any text may be quoted. -/
def TextKind.closed {g : Grammar} (legible : g.Legible) : TextKind g where
  holds := Closed
  inside _ := True
  plain h := closed_of_not_mem (not_mem_of_isPlain h)
  append := Closed.append
  identifier _ := closed_quote legible.identifierMark _
  string _ := closed_quote legible.stringMark _
  kept _ := trivial
  path _ := trivial

/-- The texts without percent signs. -/
def TextKind.signless {d : Dialect} (style : d.FormatStyle) : TextKind d.toGrammar where
  holds s := '%' ∉ s.toList
  inside s := '%' ∉ s.toList
  plain := not_mem_of_isPlain
  append hs ht := by
    rw [String.toList_append, List.mem_append, not_or]
    exact ⟨hs, ht⟩
  identifier := not_mem_quote style.legible.identifierMark
  string := not_mem_quote style.legible.stringMark
  kept := style.kept
  path h := by
    rw [String.toList_append, List.mem_append, not_or]
    exact ⟨by decide, Text.not_mem_intercalate (by decide) h⟩

/-- **Percent placeholders.** Where placeholders are percent signs and a tree writes no other
percent sign as it is, a driver finds in the text as many placeholders as there are values exactly
if it finds none in the texts that are written between them. This is so if no name, text literal or
key has a percent sign in it. -/
theorem Database.format_placeholders (db : Database) (style : db.dialect.FormatStyle) {e : Expr}
    (signless : e.Everywhere Expr.Signless) {elapsed : Float} {q : RenderedQuery}
    (h : (db.render elapsed e).outcome = .ok q) :
    (placeholders? q.sql = some q.binds.length ↔
        ∀ s, Segment.text s ∈ e.segments db.dialect.toGrammar → placeholders? s = some 0) ∧
      ((e.Everywhere fun x => ∀ s ∈ x.quotedTexts, '%' ∉ s.toList) →
        placeholders? q.sql = some q.binds.length) := by
  have visible : ∀ n : Nat, db.dialect.placeholder (n + 1) ≠ "" := by
    intro n
    simp [style.placeholder, Placeholder.format]
  obtain ⟨hsql, hbinds⟩ := Database.outcome_segments visible h
  have closed : ∀ s, Segment.text s ∈ e.segments db.dialect.toGrammar → Closed s := by
    refine fun s hs => Expr.segments_kind (.closed style.legible) style.legible ?_ hs
    refine signless.mono fun h => ⟨fun s hs => closed_of_not_mem (h.verbatim s hs), ?_, ?_⟩
    · exact fun _ _ => trivial
    · rintro k rfl
      exact closed_of_not_mem (Keyword.signless_text fun hk => h.operator (by rw [hk]))
  have exact_count : placeholders? q.sql = some q.binds.length ↔
      ∀ s, Segment.text s ∈ e.segments db.dialect.toGrammar → placeholders? s = some 0 := by
    rw [← Segment.read_write_eq closed 0 0, hsql, hbinds, style.placeholder, Nat.zero_add]
    exact placeholders?_eq_some
  refine ⟨exact_count, fun names => exact_count.2 fun s hs => ?_⟩
  refine placeholders?_of_not_mem (Expr.segments_kind (.signless style) style.legible ?_ hs)
  refine (signless.and names).mono fun h => ⟨h.1.verbatim, h.2, ?_⟩
  rintro k rfl
  exact Keyword.signless_text fun hk => h.1.operator (by rw [hk])

/-- A remainder is unreadable, since its operator is taken for the start of a placeholder. -/
example : placeholders? "`a` % %s" = none := by decide

/-- The rows of a table with a given value. -/
def Expr.lookupQuery (table : String) : Expr :=
  .node (.select
    { columns := [.node (.identifier "a")]
      tables := [.node (.identifier table)]
      predicate := .node (.operation (.node (.identifier "b"))
        (.node (.keyword (.operator .equal))) (.node (.bind (.value (.int 7)))))
      having := absent
      locking := absent })

theorem Database.format_placeholders_lookup :
    (Database.render { dialect := .mysql } 0 (Expr.lookupQuery "t")).outcome =
        .ok ⟨"SELECT `a` FROM `t` WHERE `b` = %s", [.int 7]⟩ ∧
      placeholders? "SELECT `a` FROM `t` WHERE `b` = %s" = some 1 := by
  have mysql : Dialect.mysql ∈ Dialect.builtin := by simp [Dialect.builtin]
  have style : Dialect.mysql.FormatStyle :=
    Dialect.formatStyle_of_builtin mysql (.inl rfl) rfl
  have ends : (Database.render { dialect := .mysql } 0 (Expr.lookupQuery "t")).outcome =
      .ok ⟨"SELECT `a` FROM `t` WHERE `b` = %s", [.int 7]⟩ := by
    simp only [Database.outcome_eq, Expr.lookupQuery, Expr.absent, Expr.render, Expr.draft,
      Expr.piece_node, Expr.piece_value, Node.map, Select.map, List.map_cons, List.map_nil]
    cbv
  have signless : (Expr.lookupQuery "t").Everywhere Expr.Signless := by
    simp [Expr.lookupQuery, Expr.absent, Expr.signless_iff, Expr.verbatim, Node.parts,
      Select.parts, Outline.countText]
  refine ⟨ends, (Database.format_placeholders { dialect := .mysql } style signless ends).2 ?_⟩
  simp [Expr.lookupQuery, Expr.absent, Expr.quotedTexts, Node.parts, Select.parts]

end SqlRender
