import SqlRender.Dialect.Builtin
import SqlRender.Proofs.Expr.OperatorTree
import SqlRender.Proofs.Query.Sentence
import SqlRender.Proofs.Text.Quoting

/-!
# References read back

A name stands in a text as a token between marks, so that it is read back whatever characters it
has. What a column or a table is called and what it belongs to are parted by a point outside the
tokens, and the star for all columns has no marks; so a reference is told from every other one by
its text (`Database.read_references`).
-/

namespace SqlRender

open Rendering

/-- What a reference refers to: a name, or all columns if there is none, of an owner if it is
qualified. -/
structure Reference where
  owner : Option String
  name : Option String
  deriving DecidableEq, Repr

/-- A table by its name and that of its schema, if it is given. -/
structure TableName where
  name : String
  space : Option String := none
  deriving DecidableEq, Repr

/-- The expression for a table. -/
def TableName.expr (t : TableName) : Expr :=
  Expr.qualifiedTable (.value (.text t.name)) (t.space.elim Expr.absent fun s => .value (.text s))

/-- What a column refers to. -/
def ColumnName.reference (c : ColumnName) : Reference :=
  ⟨c.table, if c.name = "*" then none else some c.name⟩

/-- What a table refers to. -/
def TableName.reference (t : TableName) : Reference :=
  ⟨t.space, some t.name⟩

theorem ColumnName.reference_inj {c c' : ColumnName} : c.reference = c'.reference ↔ c = c' := by
  obtain ⟨name, table⟩ := c
  obtain ⟨name', table'⟩ := c'
  rw [reference, reference, Reference.mk.injEq, ColumnName.mk.injEq, and_comm]
  refine and_congr_left fun _ => ?_
  by_cases h : name = "*"
  · rw [if_pos h, h]
    split <;> simp_all [eq_comm]
  · rw [if_neg h]
    split <;> simp_all

theorem TableName.reference_inj {t t' : TableName} : t.reference = t'.reference ↔ t = t' := by
  obtain ⟨name, space⟩ := t
  obtain ⟨name', space'⟩ := t'
  rw [reference, reference, Reference.mk.injEq, TableName.mk.injEq, Option.some.injEq, and_comm]

namespace Reference

/-- The texts of a reference. -/
def texts (g : Grammar) (r : Reference) : List String :=
  (r.owner.elim [] fun owner => [g.quoteIdentifier owner, "."]) ++
    [r.name.elim "*" g.quoteIdentifier]

/-- A name, or none for a star, and what follows it. -/
def readName (mark : Char) : List Char → Option (Option String × List Char)
  | '*' :: cs => some (none, cs)
  | cs => (Text.readQuoted mark cs).map fun r => (some r.1, r.2)

/-- A reference and what follows it. A name with a point after it is that of the owner. -/
def read (mark : Char) (cs : List Char) : Option (Reference × List Char) :=
  match readName mark cs with
  | some (some owner, '.' :: cs) => (readName mark cs).map fun r => (⟨some owner, r.1⟩, r.2)
  | some (name, cs) => some (⟨none, name⟩, cs)
  | none => none

variable {g : Grammar} {m : Char}

/-- A name is read back if no mark follows. -/
theorem readName_elim (h : g.identifierQuote.toList = [m]) (star : m ≠ '*') {rest : List Char}
    (hrest : rest.head? ≠ some m) (name : Option String) :
    readName m ((name.elim "*" g.quoteIdentifier).toList ++ rest) = some (name, rest) := by
  cases name with
  | none =>
      have hstar : "*".toList ++ rest = '*' :: rest := rfl
      show readName m ("*".toList ++ rest) = _
      rw [hstar, readName]
  | some name =>
      have hread := Text.readQuoted_quote h hrest name
      have hstar : ∀ more, (g.quoteIdentifier name).toList ++ rest ≠ '*' :: more := by
        intro more heq
        rw [Grammar.quoteIdentifier, Text.toList_quote h] at heq
        exact star (List.cons.inj heq).1
      show readName m ((g.quoteIdentifier name).toList ++ rest) = _
      rw [readName]
      · rw [Grammar.quoteIdentifier, hread]
        rfl
      · exact hstar

/-- A reference is read back if neither a mark nor a point follows. -/
theorem read_texts (h : g.identifierQuote.toList = [m]) (star : m ≠ '*') (point : m ≠ '.')
    {rest : List Char} (hrest : rest.head? ≠ some m) (hpoint : rest.head? ≠ some '.')
    (r : Reference) :
    read m ((String.join (r.texts g)).toList ++ rest) = some (r, rest) := by
  obtain ⟨owner, name⟩ := r
  cases owner with
  | none =>
      have hlist : (String.join (texts g ⟨none, name⟩)).toList ++ rest =
          (name.elim "*" g.quoteIdentifier).toList ++ rest := by
        simp [texts]
      rw [hlist, read, readName_elim h star hrest]
      cases name with
      | none => rfl
      | some name =>
          split
          · rename_i heq
            cases heq
            exact absurd rfl hpoint
          · rename_i heq
            cases heq
            rfl
          · rename_i heq
            cases heq
  | some owner =>
      have hlist : (String.join (texts g ⟨some owner, name⟩)).toList ++ rest =
          ((some owner).elim "*" g.quoteIdentifier).toList ++
            '.' :: ((name.elim "*" g.quoteIdentifier).toList ++ rest) := by
        simp [texts, String.join_cons]
      have hnext : ('.' :: ((name.elim "*" g.quoteIdentifier).toList ++ rest)).head? ≠ some m :=
        fun hhead => point (Option.some.inj hhead).symm
      rw [hlist, read, readName_elim h star hnext]
      show (readName m ((name.elim "*" g.quoteIdentifier).toList ++ rest)).map _ = _
      rw [readName_elim h star hrest]
      rfl

end Reference

/-! ## What references render to -/

theorem ColumnName.draft_reference (g : Grammar) (c : ColumnName) :
    c.expr.draft g = .seq ((c.reference.texts g).map .text) := by
  have htexts : c.texts g = c.reference.texts g := by
    rw [texts, Reference.texts, reference]
    by_cases h : c.name = "*" <;> simp [h]
  rw [c.draft_expr, htexts]

theorem TableName.draft_reference (g : Grammar) (t : TableName) :
    t.expr.draft g = .seq ((t.reference.texts g).map .text) := by
  obtain ⟨name, space⟩ := t
  rw [expr, Expr.qualifiedTable, Expr.draft_node]
  cases space <;> rfl

namespace Database

variable {db : Database} {q : Char} (elapsed : Float)

/-- An expression that is drafted to a reference is a query of its text. -/
theorem outcome_drafted {e : Expr} {r : Reference}
    (h : e.draft db.dialect.toGrammar = .seq ((r.texts db.dialect.toGrammar).map .text)) :
    (db.render elapsed e).outcome = .ok ⟨String.join (r.texts db.dialect.toGrammar), []⟩ := by
  refine outcome_of_render ?_
  rw [Expr.render, h, Draft.render_texts]

/-- Such an expression is told from others by its query. -/
theorem read_drafted (hq : db.dialect.identifierQuote.toList = [q]) (point : q ≠ '.')
    (star : q ≠ '*') {e : Expr} {r : Reference}
    (h : e.draft db.dialect.toGrammar = .seq ((r.texts db.dialect.toGrammar).map .text)) :
    ∃ sql, (db.render elapsed e).outcome = .ok ⟨sql, []⟩ ∧
      Reference.read q sql.toList = some (r, []) ∧
      ∀ (e' : Expr) (r' : Reference),
        e'.draft db.dialect.toGrammar = .seq ((r'.texts db.dialect.toGrammar).map .text) →
          ((db.render elapsed e').outcome = .ok ⟨sql, []⟩ ↔ r' = r) := by
  have hread (r : Reference) :
      Reference.read q (String.join (r.texts db.dialect.toGrammar)).toList = some (r, []) := by
    rw [← List.append_nil (String.toList _)]
    exact Reference.read_texts hq star point (by simp) (by simp) r
  refine ⟨_, outcome_drafted elapsed h, hread r, fun e' r' h' => ?_⟩
  rw [outcome_drafted elapsed h']
  constructor
  · intro houtcome
    injection houtcome with hquery
    injection hquery with hsql
    have hboth := hread r'
    rw [hsql, hread r] at hboth
    cases hboth
    rfl
  · rintro rfl
    rfl

/-- **References are read back.** Where the marks of names and of texts have one character each, and
names do not have a point or a star for it: what is quoted is read back from its token, and what
follows is left as it is, if that does not begin with the mark. A column or a table that is given by
texts is read back from the query for it, the owner and the name apart and the star as a star; so
two of them give the same query exactly if they refer to the same. -/
theorem read_references {p : Char} (hq : db.dialect.identifierQuote.toList = [q])
    (hp : db.dialect.stringQuote.toList = [p]) (point : q ≠ '.') (star : q ≠ '*') :
    (∀ v t : String, t.toList.head? ≠ some q →
        Text.readQuoted q (db.dialect.quoteIdentifier v ++ t).toList = some (v, t.toList)) ∧
      (∀ v t : String, t.toList.head? ≠ some p →
        Text.readQuoted p (db.dialect.quoteString v ++ t).toList = some (v, t.toList)) ∧
      (∀ c : ColumnName, ∃ sql, (db.render elapsed c.expr).outcome = .ok ⟨sql, []⟩ ∧
        Reference.read q sql.toList = some (c.reference, []) ∧
        (∀ c' : ColumnName, (db.render elapsed c'.expr).outcome = .ok ⟨sql, []⟩ ↔ c' = c) ∧
        ∀ t : TableName,
          (db.render elapsed t.expr).outcome = .ok ⟨sql, []⟩ ↔ t.reference = c.reference) ∧
      ∀ t : TableName, ∃ sql, (db.render elapsed t.expr).outcome = .ok ⟨sql, []⟩ ∧
        Reference.read q sql.toList = some (t.reference, []) ∧
        ∀ t' : TableName, (db.render elapsed t'.expr).outcome = .ok ⟨sql, []⟩ ↔ t' = t := by
  refine ⟨fun v t ht => ?_, fun v t ht => ?_, fun c => ?_, fun t => ?_⟩
  · rw [String.toList_append]
    exact Text.readQuoted_quote hq ht v
  · rw [String.toList_append]
    exact Text.readQuoted_quote hp ht v
  · obtain ⟨sql, houtcome, hread, hiff⟩ :=
      read_drafted elapsed hq point star (c.draft_reference db.dialect.toGrammar)
    refine ⟨sql, houtcome, hread, fun c' => ?_, fun t => ?_⟩
    · rw [hiff _ _ (c'.draft_reference _), ColumnName.reference_inj]
    · exact hiff _ _ (t.draft_reference _)
  · obtain ⟨sql, houtcome, hread, hiff⟩ :=
      read_drafted elapsed hq point star (t.draft_reference db.dialect.toGrammar)
    refine ⟨sql, houtcome, hread, fun t' => ?_⟩
    rw [hiff _ _ (t'.draft_reference _), TableName.reference_inj]

/-- A name with a point and marks in it is told from a qualified one. -/
theorem read_references_dotted :
    Dialect.mysql.identifierQuote.toList = ['`'] ∧ Dialect.mysql.stringQuote.toList = ['\''] ∧
      '`' ≠ '.' ∧ '`' ≠ '*' ∧
      (Database.render { dialect := .mysql } 0 (ColumnName.expr ⟨"a`.`b", none⟩)).outcome =
        .ok ⟨"`a``.``b`", []⟩ ∧
      Reference.read '`' "`a``.``b`".toList = some (⟨none, some "a`.`b"⟩, []) ∧
      (Database.render { dialect := .mysql } 0 (ColumnName.expr ⟨"b", some "a"⟩)).outcome ≠
        .ok ⟨"`a``.``b`", []⟩ := by
  have marks : Dialect.mysql.identifierQuote.toList = ['`'] ∧
      Dialect.mysql.stringQuote.toList = ['\''] ∧ '`' ≠ '.' ∧ '`' ≠ '*' := by decide
  obtain ⟨hq, hp, point, star⟩ := marks
  obtain ⟨-, -, hcolumn, -⟩ := @read_references { dialect := .mysql } '`' 0 '\'' hq hp point star
  obtain ⟨sql, houtcome, hread, hiff, -⟩ := hcolumn ⟨"a`.`b", none⟩
  have hsql : sql = "`a``.``b`" := by
    rw [outcome_drafted 0 (ColumnName.draft_reference _ _)] at houtcome
    injection houtcome with hquery
    injection hquery with hsql
    exact hsql.symm.trans (by decide +kernel)
  subst hsql
  refine ⟨hq, hp, point, star, houtcome, hread, fun hqualified => ?_⟩
  exact absurd ((hiff ⟨"b", some "a"⟩).1 hqualified) (by decide)

end Database

end SqlRender
