import Mathlib
import SqlRender.Expr.Build
import SqlRender.Proofs.Database.Report
import SqlRender.Proofs.Dialect.Legible
import SqlRender.Proofs.Expr.Verbatim
import SqlRender.Proofs.Likeness.Tree

/-!
# Names and texts stay inside their quotes

With other names, other text literals and other keys in their paths, two trees cannot be told apart
by a reader of the text outside of quoted tokens. What is written as it is has to keep to itself: it
must lead the reader from outside of tokens to outside.

The main statement is `Database.render_eraseNames`. A tree is compared with what is left of it when
all its names are erased, and two trees with the same remains with each other.
-/

namespace SqlRender

open Text Text.Scanner

/-! ## Erasing names -/

/-- No text in place of a text. -/
def Wording.erase : Wording → Wording
  | .text _ => .text ""
  | .other o => .other o

/-- A text literal without its text. -/
def Literal.erase (l : Literal) : Literal :=
  match l.kind, l.value with
  | .string, .value (.text _) => { l with value := .text "" }
  | _, _ => l

/-- No text in place of names, text literals and keys. -/
def Relabel.names : Relabel where
  name := Wording.erase
  key := Wording.erase
  literal := Literal.erase

/-- An expression without its names, text literals and keys. Two expressions differ in these alone
if they are the same without them. -/
def Expr.eraseNames : Expr → Expr :=
  relabel .names

/-- What an expression writes as it is leads from outside of quoted tokens to outside. -/
def Expr.Contained (marks : List Char) (e : Expr) : Prop :=
  e.Everywhere fun x => ∀ s ∈ x.verbatim, Balanced marks s

theorem Expr.verbatim_eraseNames (e : Expr) : e.eraseNames.verbatim = e.verbatim := by
  unfold eraseNames
  cases e with
  | value v => rw [relabel_value]
  | sequence isTuple items => rw [relabel_sequence]; rfl
  | node n =>
      rw [relabel_node]
      cases n with
      | literal l =>
          obtain ⟨kind, value⟩ := l
          cases kind with
          | string =>
              cases value with
              | value v => cases v <;> rfl
              | _ => rfl
          | _ => rfl
      | raw sql => cases sql <;> rfl
      | list items separator => cases separator <;> rfl
      | call name args => cases name <;> rfl
      | _ => rfl

/-- Trees that differ in names, text literals and keys alone write the same texts as they are. -/
theorem Expr.Contained.congr {marks : List Char} {e e' : Expr} (h : e.Contained marks)
    (hnames : e.eraseNames = e'.eraseNames) : e'.Contained marks := by
  -- erasing changes nothing that is written as it is, so one tree is reached from the other
  have herased : e.eraseNames.Contained marks :=
    Everywhere.relabel .names (fun x hx => by rw [← eraseNames, verbatim_eraseNames]; exact hx) h
  rw [hnames] at herased
  exact Everywhere.of_relabel .names
    (fun x hx => by rw [← eraseNames, verbatim_eraseNames] at hx; exact hx) herased

/-! ## What a reader sees -/

/-- Renderings of texts that a reader of quoted tokens cannot tell apart, with the same values.
Their faults may name what cannot be rendered. -/
def Agreement.unseen {marks : List Char} (hmarks : ∀ m ∈ marks, m = '\'' ∨ m = '"' ∨ m = '`') :
    Agreement where
  text := SeenAlike marks
  value := Eq
  fault _ _ := True
  plain h := (balanced_of_isPlain hmarks h).seenAlike
  append := SeenAlike.append
  eq_empty := SeenAlike.empty
  fault_refl _ := trivial

section Labels

variable {g : Grammar} (legible : g.Legible) (p : Int → String)

/-- Drafts that a reader cannot tell apart when they are written. -/
abbrev Likeness.unseen : Likeness :=
  (Agreement.unseen legible.marks).likeness p

namespace Likeness

variable {legible} {p}

theorem unseen_balanced {s : String} (h : Balanced g.marks s) :
    (unseen legible p).draft (.text s) (.text s) :=
  (unseen legible p).of_text h.seenAlike

theorem unseen_fault (f f' : Fault) : (unseen legible p).draft (.fail f) (.fail f') :=
  Agreement.rendering_throw trivial

theorem unseen_written {w : Wording} (h : ∀ s, w = .text s → Balanced g.marks s) :
    (unseen legible p).draft w.written w.written := by
  cases w with
  | text s => exact unseen_balanced (h s rfl)
  | other o => exact Agreement.writtenOther o

/-- What is quoted can be replaced by nothing in quotes. -/
theorem unseen_quoted {quote : String → String}
    (h : ∀ s t, SeenAlike g.marks (quote s) (quote t)) (w : Wording) :
    (unseen legible p).draft (w.quoted quote) (w.erase.quoted quote) := by
  cases w with
  | text s => exact (unseen legible p).of_text (h s "")
  | other o =>
      show (unseen legible p).draft ((Wording.other o).quoted quote)
        ((Wording.other o).quoted quote)
      unfold Wording.quoted
      split
      · exact (unseen legible p).of_text (h _ _)
      · exact unseen_fault _ _
      · exact unseen_fault _ _
      · exact unseen_fault _ _

theorem unseen_literal (l : Literal)
    (h : ∀ s, l = ⟨.numeric, .value (.text s)⟩ → Balanced g.marks s) :
    (unseen legible p).draft (l.draft g) (l.erase.draft g) := by
  obtain ⟨kind, value⟩ := l
  cases kind with
  | string =>
      have hquoted : (unseen legible p).draft ((Wording.ofOutline value).quoted g.quoteString)
          ((Wording.ofOutline value).erase.quoted g.quoteString) :=
        unseen_quoted legible.string _
      cases value with
      | value v => cases v <;> exact hquoted
      | _ => exact hquoted
  | numeric =>
      refine unseen_written fun s hs => h s ?_
      cases Wording.eq_of_ofOutline hs
      rfl
  | boolean => exact text_plain (legible.booleanText _)
  | null => exact text_plain (by decide)
  | all => exact text_plain (by decide)
  | default => exact text_plain legible.defaultWord

theorem unseen_keyword (k : Keyword) :
    (unseen legible p).draft (Node.keywordDraft g k) (Node.keywordDraft g k) := by
  unfold Node.keywordDraft
  split
  · exact (unseen legible p).of_warn _
  · rename_i clause
    obtain ⟨word, hword, hplain⟩ := legible.lock clause
    rw [hword]
    exact text_plain hplain
  · exact (unseen legible p).of_fail _
  · exact unseen_balanced (balanced_of_isUnmarked legible.marks k.isUnmarked_text)

theorem unseen_name (w : Wording) :
    (unseen legible p).shape g (.identifier w) (.identifier w.erase) := by
  cases w with
  | text s => exact .identifier (legible.identifier _ _)
  | other o => exact .nameless rfl rfl

theorem texts_erase (keys : List Wording) (position : Nat) :
    (∃ fault, Wording.texts position keys = .error fault ∧
        Wording.texts position (keys.map Wording.erase) = .error fault) ∨
      ∃ texts texts', Wording.texts position keys = .ok texts ∧
        Wording.texts position (keys.map Wording.erase) = .ok texts' := by
  induction keys generalizing position with
  | nil => exact .inr ⟨[], [], rfl, rfl⟩
  | cons key keys ih =>
      cases key with
      | other o => exact .inl ⟨_, rfl, rfl⟩
      | text s =>
          rcases ih (position + 1) with ⟨fault, h, h'⟩ | ⟨texts, texts', h, h'⟩
          · refine .inl ⟨fault, ?_, ?_⟩
            · rw [Wording.texts, h, Except.map]
            · rw [List.map_cons, Wording.erase, Wording.texts, h', Except.map]
          · refine .inr ⟨s :: texts, "" :: texts', ?_, ?_⟩
            · rw [Wording.texts, h, Except.map]
            · rw [List.map_cons, Wording.erase, Wording.texts, h', Except.map]

/-- A path is quoted, key by key or as a whole. -/
theorem unseen_path (keys : List Wording) :
    (unseen legible p).path g keys (keys.map Wording.erase) where
  quoted := by
    induction keys with
    | nil => exact .nil
    | cons key keys ih => exact .cons (unseen_quoted legible.string key) ih
  joined := by
    rcases texts_erase keys 0 with h | ⟨texts, texts', h, h'⟩
    · exact .inl h
    · exact .inr ⟨texts, texts', h, h', (unseen legible p).of_text (legible.string _ _)⟩

/-- A number of rows is written in digits. -/
theorem balanced_given (legible : g.Legible) {o : Outline} {n : String}
    (hn : (match o with
      | .value .null => none
      | o => some o.display) = some n)
    (h : ∀ s ∈ o.countText, Balanced g.marks s) : Balanced g.marks n := by
  rcases Outline.mem_countText_or_isPlain hn with hmem | hplain
  · exact h n hmem
  · exact legible.balanced hplain

theorem unseen_counts {limit offset : Outline}
    (h : ∀ s ∈ limit.countText ++ offset.countText, Balanced g.marks s) :
    (unseen legible p).drafts (limitOffset g limit offset) (limitOffset g limit offset) := by
  rw [List.forall_mem_append] at h
  obtain ⟨hlimit, hoffset⟩ := h
  have count {word n : String} (hword : isPlain word = true) (hn : Balanced g.marks n) :
      (unseen legible p).drafts [.text word, .text n] [.text word, .text n] :=
    drafts.word hword (drafts_single (unseen_balanced hn))
  unfold limitOffset
  refine drafts.append ?_ ?_
  · split
    · rename_i n hn
      exact count (by decide) (balanced_given legible hn hlimit)
    · split
      · rename_i hn
        exact count (by decide) (legible.balanced (legible.offsetWithoutLimit hn))
      · exact .nil
  · split
    · rename_i n hn
      exact count (by decide) (balanced_given legible hn hoffset)
    · exact .nil

theorem unseen_noOperator (o o' : Outline) :
    (unseen legible p).draft (noOperator o) (noOperator o') := by
  unfold noOperator
  split <;> split <;> exact unseen_fault _ _

/-- No reader of quoted tokens sees the names, text literals and keys of a tree. -/
theorem unseen_labels (hp : ∀ n, Balanced g.marks (p n)) {e : Expr}
    (contained : ∀ s ∈ e.verbatim, Balanced g.marks s) :
    (unseen legible p).rootLabels g .names e := by
  cases e with
  | value v =>
      rintro s rfl
      exact (contained s (List.mem_singleton_self s)).seenAlike
  | sequence isTuple items => trivial
  | node n =>
      cases n with
      | raw sql =>
          refine unseen_written fun s hs => contained s ?_
          rw [hs]
          exact List.mem_singleton_self s
      -- the name of a constraint is quoted too, after it may have been shortened
      | identifier name => exact ⟨unseen_quoted legible.identifier name, unseen_name name⟩
      | literal l =>
          refine unseen_literal l fun s hs => contained s ?_
          rw [hs]
          exact List.mem_singleton_self s
      -- what is bound is not erased, and placeholders have no marks
      | bind value => exact Agreement.writeBind (fun n => (hp _).seenAlike) rfl
      | keyword k => exact unseen_keyword k
      | list items separator =>
          show Separator.Alike _ separator.separator separator.separator
          cases separator with
          | text s => exact .text (contained s (List.mem_singleton_self s)).seenAlike
          | other o =>
              unfold Wording.separator
              simp only
              split
              · exact .stray _
              · exact .text ((unseen legible p).plain (by decide))
      | call name args =>
          refine unseen_written fun s hs => contained s ?_
          rw [hs]
          exact List.mem_singleton_self s
      | clause word body => exact (contained _ (List.mem_singleton_self _)).seenAlike
      | subpath target path => exact unseen_path path
      | select s => exact unseen_counts contained
      | union u => exact unseen_counts contained
      | unionJoiner operator => exact unseen_noOperator _ _
      | _ => trivial

end Likeness

end Labels

/-- Outcomes that a reader of quoted tokens cannot tell apart: queries in which it sees the same,
with the same values, and which leave it outside of tokens, or failures. -/
inductive ReadAlike (marks : List Char) :
    Except Fault RenderedQuery → Except Fault RenderedQuery → Prop where
  | ok {q q' : RenderedQuery} : read marks q.sql = read marks q'.sql → Balanced marks q.sql →
    Balanced marks q'.sql → q.binds = q'.binds → ReadAlike marks (.ok q) (.ok q')
  | error (f f' : Fault) : ReadAlike marks (.error f) (.error f')

/-- Outcomes that agree with the same outcome cannot be told apart. -/
theorem Agreement.readAlike {marks : List Char}
    {hmarks : ∀ m ∈ marks, m = '\'' ∨ m = '"' ∨ m = '`'} {x y z : Except Fault RenderedQuery}
    (hxz : (unseen hmarks).outcome x z) (hyz : (unseen hmarks).outcome y z) :
    ReadAlike marks x y := by
  cases hxz with
  | error hf =>
      cases hyz with
      | error hf' => exact .error _ _
  | @ok q r hq hqr =>
      cases hyz with
      | @ok q' _ hq' hqr' =>
          have hread : read marks q.sql = read marks r.sql := hq.scan trivial
          have hread' : read marks q'.sql = read marks r.sql := hq'.scan trivial
          have hbinds : q.binds = r.binds := List.forall₂_eq_eq_eq ▸ hqr
          have hbinds' : q'.binds = r.binds := List.forall₂_eq_eq_eq ▸ hqr'
          exact .ok (hread.trans hread'.symm) (hq.place trivial) (hq'.place trivial)
            (hbinds.trans hbinds'.symm)

/-- **Names and texts stay inside their quotes.** Take two trees that differ in their names, text
literals and keys alone, and that write nothing else that leads a reader of quoted tokens astray. In
a built-in dialect with any style of placeholders such a reader sees the same in both texts and is
outside of tokens at their ends, the values are the same and so are the warnings. -/
theorem Database.render_eraseNames (db : Database) {base : Dialect} {style : String} {e e' : Expr}
    (hbase : base ∈ Dialect.builtin) (hstyle : base.withParamStyle style = .ok db.dialect)
    (hnames : e.eraseNames = e'.eraseNames) (contained : e.Contained db.dialect.marks)
    (elapsed elapsed' : Float) :
    ReadAlike db.dialect.marks (db.render elapsed e).outcome (db.render elapsed' e').outcome ∧
      (db.render elapsed e).warnings = (db.render elapsed' e').warnings := by
  obtain ⟨hgrammar, hplaceholder⟩ := Dialect.withParamStyle_eq hstyle
  have legible : db.dialect.toGrammar.Legible := hgrammar ▸ Dialect.legible_builtin hbase
  have hp : ∀ n, Balanced db.dialect.marks (db.dialect.placeholder n) :=
    Placeholder.balanced legible.marks hplaceholder
  have erased {x : Expr} (h : x.Contained db.dialect.marks) (elapsed : Float) :
      (Agreement.unseen legible.marks).outcome (db.render elapsed x).outcome
          (db.render 0 x.eraseNames).outcome ∧
        (db.render elapsed x).warnings = (db.render 0 x.eraseNames).warnings := by
    have hlabels : x.Everywhere ((Likeness.unseen legible db.dialect.placeholder).rootLabels
        db.dialect.toGrammar .names) := h.mono (Likeness.unseen_labels hp)
    exact Agreement.report (Likeness.tree (legible.fits _) hlabels).draft elapsed 0
  -- what is left of the trees is the same, and each agrees with it
  obtain ⟨houtcome, hwarnings⟩ := erased contained elapsed
  obtain ⟨houtcome', hwarnings'⟩ := erased (contained.congr hnames) elapsed'
  rw [← hnames] at houtcome' hwarnings'
  exact ⟨Agreement.readAlike houtcome houtcome', hwarnings.trans hwarnings'.symm⟩

/-- A query of the rows of a table that have a note. -/
def Expr.notedQuery (table note : String) : Expr :=
  .node (.select
    { columns := [.node (.identifier "a")]
      tables := [.node (.identifier table)]
      predicate := .node (.operation (.node (.identifier "b"))
        (.node (.keyword (.operator .equal))) (.string note))
      having := absent
      locking := absent })

theorem Expr.notedQuery_eraseNames (table note : String) :
    (notedQuery table note).eraseNames =
      .node (.select
        { columns := [.node (.identifier "")]
          tables := [.node (.identifier "")]
          predicate := .node (.operation (.node (.identifier ""))
            (.node (.keyword (.operator .equal))) (.string ""))
          having := absent
          locking := absent }) := by
  simp only [notedQuery, string, absent, eraseNames, relabel_node, relabel_value, Node.relabel,
    Node.map, Select.relabel, Select.map, List.map_cons, List.map_nil]
  rfl

theorem Database.render_eraseNames_noted :
    (Expr.notedQuery "t\"" "it's").Contained Dialect.postgresql.marks ∧
      ReadAlike Dialect.postgresql.marks
        (.ok ⟨"SELECT \"a\" FROM \"t\"\"\" WHERE \"b\" = 'it''s'", []⟩)
        (.ok ⟨"SELECT \"a\" FROM \"u\" WHERE \"b\" = '\"'", []⟩) := by
  have contained : (Expr.notedQuery "t\"" "it's").Contained Dialect.postgresql.marks := by
    simp [Expr.Contained, Expr.notedQuery, Expr.string, Expr.absent, Expr.verbatim, Node.parts,
      Select.parts, Outline.countText, Outline.text]
  have hnames : (Expr.notedQuery "t\"" "it's").eraseNames =
      (Expr.notedQuery "u" "\"").eraseNames := by
    rw [Expr.notedQuery_eraseNames, Expr.notedQuery_eraseNames]
  have hstyle : Dialect.postgresql.withParamStyle "dollar" = .ok Dialect.postgresql := rfl
  have halike := (Database.render_eraseNames { dialect := .postgresql } (by simp [Dialect.builtin])
    hstyle hnames contained 0 1).1
  have hleft : (Rendering.ending ((Expr.notedQuery "t\"" "it's").render .postgresql {})).1 =
      .ok ⟨"SELECT \"a\" FROM \"t\"\"\" WHERE \"b\" = 'it''s'", []⟩ := by
    simp only [Expr.notedQuery, Expr.string, Expr.absent, Expr.render, Expr.draft,
      Expr.piece_node, Expr.piece_value, Node.map, Select.map, List.map_cons, List.map_nil]
    cbv
  have hright : (Rendering.ending ((Expr.notedQuery "u" "\"").render .postgresql {})).1 =
      .ok ⟨"SELECT \"a\" FROM \"u\" WHERE \"b\" = '\"'", []⟩ := by
    simp only [Expr.notedQuery, Expr.string, Expr.absent, Expr.render, Expr.draft,
      Expr.piece_node, Expr.piece_value, Node.map, Select.map, List.map_cons, List.map_nil]
    cbv
  rw [Database.outcome_eq, Database.outcome_eq, hleft, hright] at halike
  exact ⟨contained, halike⟩

end SqlRender
