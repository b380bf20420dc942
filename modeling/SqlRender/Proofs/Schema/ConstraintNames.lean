import Mathlib.Data.List.Forall2
import SqlRender.Dialect.Builtin
import SqlRender.Proofs.Schema.Alterations
import SqlRender.Proofs.Text.Quoting

/-!
# Names of constraints

A dialect may limit the names of constraints, and replace those that are too long. A constraint is
dropped by the very token that it was created with (`Dialect.constraint_dropped_as_created`): both
statements keep the name in the same way before they quote it. MySQL keeps a long name as its
digest, which is short enough to be kept as it is, so that two names can be taken for each other
only through a digest.
-/

namespace SqlRender

open Rendering

/-! ## Names that are kept -/

namespace NameLimit

variable {l : NameLimit} {name name' : String}

theorem keep_of_le (h : name.length ≤ l.maxLength) : l.keep name = name :=
  if_neg (Nat.not_lt.2 h)

theorem keep_of_lt (h : l.maxLength < name.length) : l.keep name = l.replacement name :=
  if_pos h

/-- If all replacements are within the limit, so is each name that is kept. -/
theorem length_keep_le (short : ∀ name, (l.replacement name).length ≤ l.maxLength)
    (name : String) : (l.keep name).length ≤ l.maxLength := by
  rcases Nat.lt_or_ge l.maxLength name.length with h | h
  · rw [keep_of_lt h]
    exact short name
  · rwa [keep_of_le h]

/-- Names that are kept alike are equal, or a replacement is taken for a name or for another. -/
theorem eq_of_keep_eq (h : l.keep name = l.keep name') :
    name = name' ∨ l.replacement name = l.replacement name' ∨ name' = l.replacement name ∨
      name = l.replacement name' := by
  -- what is compared is each name or its replacement
  rcases Nat.lt_or_ge l.maxLength name.length with long | short <;>
    rcases Nat.lt_or_ge l.maxLength name'.length with long' | short'
  · rw [keep_of_lt long, keep_of_lt long'] at h
    exact .inr (.inl h)
  · rw [keep_of_lt long, keep_of_le short'] at h
    exact .inr (.inr (.inl h.symm))
  · rw [keep_of_le short, keep_of_lt long'] at h
    exact .inr (.inr (.inr h))
  · rw [keep_of_le short, keep_of_le short'] at h
    exact .inl h

end NameLimit

/-! ## Digests -/

theorem Text.length_hex {width n : Nat} (positive : 0 < width) (h : n < 16 ^ width) :
    (hex width n).length = width := by
  have hdigits : (Nat.toDigits 16 n).length ≤ width :=
    (Nat.length_toDigits_le_iff (by decide) positive).2 h
  rw [hex, String.length_ofList, List.length_append, List.length_replicate,
    Nat.sub_add_cancel hdigits]

/-- A digest is five words of eight digits. -/
theorem Sha1.length_hexDigest (message : List UInt8) : (hexDigest message).length = 40 := by
  have word (x : UInt32) : (Text.hex 8 x.toNat).length = 8 :=
    Text.length_hex (by decide) x.toNat_lt
  simp [hexDigest, word]

/-- The digest that stands for a long name. -/
def nameDigest (name : String) : String :=
  Sha1.hexDigest (Text.Utf8.encode name)

theorem length_nameDigest_le (name : String) :
    (digestLongNames.replacement name).length ≤ digestLongNames.maxLength := by
  show (Sha1.hexDigest (Text.Utf8.encode name)).length ≤ 64
  rw [Sha1.length_hexDigest]
  decide

/-! ## Tokens -/

namespace Grammar

/-- The token for the name of a constraint: the name that is kept, in quotes. -/
def constraintToken (g : Grammar) (name : String) : String :=
  g.quoteIdentifier (g.keptConstraintName name)

/-- If long names are replaced by their digests, names with the same token are equal, or they have a
digest in common, or one of them is the digest of the other. -/
theorem eq_of_constraintToken_eq {g : Grammar} {mark : Char}
    (hmark : g.identifierQuote.toList = [mark])
    (hlimit : g.constraintName = none ∨ g.constraintName = some digestLongNames)
    {name name' : String} (h : g.constraintToken name = g.constraintToken name') :
    name = name' ∨ nameDigest name = nameDigest name' ∨ name' = nameDigest name ∨
      name = nameDigest name' := by
  have hkept : g.keptConstraintName name = g.keptConstraintName name' :=
    (Text.quote_inj hmark).1 h
  unfold keptConstraintName at hkept
  rcases hlimit with hlimit | hlimit
  · rw [hlimit] at hkept
    exact .inl hkept
  · rw [hlimit] at hkept
    exact NameLimit.eq_of_keep_eq hkept

end Grammar

variable {d : Dialect}

/-- A named constraint is the token of its name and then what it says. -/
theorem Expr.render_constraint (algorithm : Expr) (name : String) :
    Rendering.render ((Expr.constraint algorithm (.value (.text name))).render d) =
      (fun text => Text.joinFull " " ["CONSTRAINT", d.constraintToken name, text]) <$>
        algorithm.partText d := by
  have hdraft : (Expr.constraint algorithm (.value (.text name))).draft d.toGrammar =
      .phrase (["CONSTRAINT", d.constraintToken name].map .text ++
        (algorithm.piece d.toGrammar).part) := by
    rw [Expr.constraint, Expr.draft_node]
    rfl
  rw [Expr.render, hdraft, Draft.render_phrase, Draft.fullTexts_append, Draft.fullTexts_words,
    Expr.fullTexts_part]
  simp only [pure_bind, bind_pure_comp, Functor.map_map, ← Text.full_append]
  rfl

/-- The removal of a constraint is its verb and the token of the name. -/
theorem TableChange.text_dropConstraint (name : String) :
    (TableChange.dropConstraint (.node (.identifier (.text name)))).text d =
      pure (Text.joinFull " " ["DROP CONSTRAINT", d.constraintToken name]) :=
  rfl

namespace AlterTable

/-- Constraints are dropped behind all that is added and the columns that are dropped. -/
theorem getElem?_changes {a : AlterTable Expr} {i : Nat} {name : Expr}
    (h : a.dropConstraints[i]? = some name) :
    a.changes[a.addColumns.length + a.addConstraints.length + a.dropColumns.length + i]? =
      some (.dropConstraint name) := by
  have hfront : ((a.addColumns ++ a.addConstraints).map TableChange.add ++
      a.dropColumns.map TableChange.drop).length =
      a.addColumns.length + a.addConstraints.length + a.dropColumns.length := by
    rw [List.length_append, List.length_map, List.length_map, List.length_append]
  have hlt : i < (a.dropConstraints.map TableChange.dropConstraint).length := by
    rw [List.length_map]
    exact (List.getElem?_eq_some_iff.1 h).1
  rw [changes, List.append_assoc, ← hfront, List.getElem?_append_right (Nat.le_add_right ..),
    Nat.add_sub_cancel_left, List.getElem?_append_left hlt, List.getElem?_map, h]
  rfl

/-- Where a constraint is dropped by a name in quotes, its token stands in the text. -/
theorem getElem?_of_given {a : AlterTable Expr} {i : Nat} {name : String}
    (h : a.dropConstraints[i]? = some (.node (.identifier (.text name)))) {texts : List String}
    (given : List.Forall₂ (fun k text => (TableChange.text d k).Gives text) a.changes texts) :
    texts[a.addColumns.length + a.addConstraints.length + a.dropColumns.length + i]? =
      some (Text.joinFull " " ["DROP CONSTRAINT", d.constraintToken name]) := by
  obtain ⟨hlt, hget⟩ := List.getElem?_eq_some_iff.1 (getElem?_changes h)
  have hgives := given.get hlt (given.length_eq ▸ hlt)
  rw [List.get_eq_getElem, hget, TableChange.text_dropConstraint] at hgives
  rw [List.getElem?_eq_getElem (given.length_eq ▸ hlt), hgives.pure]
  rfl

/-- An alteration renders if its text can be given. -/
theorem exists_run_of_sentence {a : AlterTable Expr} {text : String}
    (named : a.nameFault? d.toGrammar = none) (hsentence : a.sentence d = pure text)
    (before : Serializer) :
    ∃ after, (Expr.node (.alterTable a)).render d before = .ok () after ∧
      after.sql = before.sql ++ text := by
  let s : Serializer := { before with warnings := before.warnings ++ a.announced d.toGrammar }
  have hannounce : announce (a.announced d.toGrammar) before = .ok () s := rfl
  have hrender := congrFun ((a.render_phraseParts (d := d)).trans hsentence) s
  obtain ⟨after, run, hsql, -, -⟩ := exists_run (Draft.run_isLocal d.placeholder _) hrender
  refine ⟨after, ?_, hsql⟩
  rw [render_eq, named]
  simp only
  rw [bind_of_ok hannounce]
  exact run

/-- The removal of constraints of a table. -/
def removal (table : String) (names : List String) : AlterTable Expr where
  table := .value (.text table)
  renameTo := .absent
  dropConstraints := names.map fun name => .value (.text name)

/-- A removal of constraints always renders. -/
theorem exists_run_removal (d : Dialect) (table : String) (names : List String)
    (before : Serializer) :
    ∃ after, (Expr.alterTable (removal table names)).render d before = .ok () after ∧
      after.sql = before.sql ++ Text.joinFull " " ["ALTER TABLE", d.quoteIdentifier table,
        Text.joinFull ", " (names.map fun name =>
          Text.joinFull " " ["DROP CONSTRAINT", d.constraintToken name])] := by
  let a : AlterTable Expr :=
    { table := .node (.identifier (.text table)), renameTo := .absent
      dropConstraints := names.map fun name => .node (.identifier (.text name)) }
  have hbuild : Expr.alterTable (removal table names) = .node (.alterTable a) := by
    simp only [Expr.alterTable, removal, List.map_map]
    rfl
  have named : a.nameFault? d.toGrammar = none := by
    simp only [nameFault?, a, List.findSome?_eq_none_iff, List.forall_mem_map]
    exact fun _ _ => rfl
  have hchanges : a.changes.mapM (TableChange.text d) = pure (names.map fun name =>
      Text.joinFull " " ["DROP CONSTRAINT", d.constraintToken name]) := by
    simp only [changes, a, List.map_nil, List.nil_append, List.append_nil, List.map_map,
      List.mapM_map]
    rw [← List.mapM_pure]
    rfl
  have htable : a.table.partText d = pure (d.quoteIdentifier table) :=
    Draft.render_text (d.quoteIdentifier table)
  have hsentence : a.sentence d = pure (Text.joinFull " " ["ALTER TABLE", d.quoteIdentifier table,
        Text.joinFull ", " (names.map fun name =>
          Text.joinFull " " ["DROP CONSTRAINT", d.constraintToken name])]) := by
    rw [sentence, htable, hchanges]
    rfl
  rw [hbuild]
  exact exists_run_of_sentence named hsentence before

end AlterTable

namespace Dialect

/-- **Names of constraints.** A constraint is written with a token that its name alone decides,
whatever it says, and is dropped by the same token: wherever it stands among those that are
dropped, if the alteration renders, and in a removal of constraints in any case. If long names are
replaced by their digests, the name in the token has at most 64 characters, it is the name itself
if that has no more, and it is kept as it is when it is used as a name. If the quotation mark is one
character, two names have the same token only if they are equal, or their digests are, or one is the
digest of the other. -/
theorem constraint_dropped_as_created (d : Dialect) (s : String) :
    (∀ algorithm, Rendering.render ((Expr.constraint algorithm (.value (.text s))).render d) =
        (fun text => Text.joinFull " " ["CONSTRAINT", d.constraintToken s, text]) <$>
          algorithm.partText d) ∧
      (∀ (a : AlterTable Expr) (i : Nat), a.dropConstraints[i]? = some (.value (.text s)) →
        ∀ before after, (Expr.alterTable a).render d before = .ok () after →
          ∃ table renamed texts, (a.table.orIdentifier.partText d).Gives table ∧
            (a.renameTo.orIdentifier.bodyText d).Gives renamed ∧
            texts.length = a.changes.length ∧
            after.sql = before.sql ++ Text.joinFull " "
              ["ALTER TABLE", table, Text.clause "RENAME TO" renamed, ", ".intercalate texts] ∧
            texts[a.addColumns.length + a.addConstraints.length + a.dropColumns.length + i]? =
              some (Text.joinFull " " ["DROP CONSTRAINT", d.constraintToken s])) ∧
      (∀ table names before, ∃ after,
        (Expr.alterTable (.removal table names)).render d before = .ok () after ∧
          after.sql = before.sql ++ Text.joinFull " " ["ALTER TABLE", d.quoteIdentifier table,
            Text.joinFull ", " (names.map fun name =>
              Text.joinFull " " ["DROP CONSTRAINT", d.constraintToken name])]) ∧
      d.constraintToken s = d.quoteIdentifier (d.keptConstraintName s) ∧
      (d.constraintName = some digestLongNames →
        (d.keptConstraintName s).length ≤ 64 ∧
          (s.length ≤ 64 → d.keptConstraintName s = s) ∧
          d.keptConstraintName (d.keptConstraintName s) = d.keptConstraintName s) ∧
      ∀ mark s', d.identifierQuote.toList = [mark] →
        d.constraintName = none ∨ d.constraintName = some digestLongNames →
        d.constraintToken s = d.constraintToken s' →
        s = s' ∨ nameDigest s = nameDigest s' ∨ s' = nameDigest s ∨ s = nameDigest s' := by
  refine ⟨fun algorithm => Expr.render_constraint algorithm s, ?_,
    AlterTable.exists_run_removal d, rfl, ?_,
    fun mark s' hmark hlimit => Grammar.eq_of_constraintToken_eq hmark hlimit⟩
  · intro a i hname before after run
    obtain ⟨table, renamed, texts, htable, hrenamed, given, hsql⟩ := AlterTable.exists_texts run
    have hlength : texts.length = a.changes.length := by
      rw [← given.length_eq]
      simp [AlterTable.changes]
    refine ⟨table, renamed, texts, htable, hrenamed, hlength, hsql, ?_⟩
    have hbuilt : (a.dropConstraints.map Expr.orIdentifier)[i]? =
        some (.node (.identifier (.text s))) := by
      rw [List.getElem?_map, hname]
      rfl
    have htoken := AlterTable.getElem?_of_given hbuilt given
    rwa [List.length_map] at htoken
  · intro hlimit
    have hkept (name : String) : d.keptConstraintName name = digestLongNames.keep name := by
      rw [Grammar.keptConstraintName, hlimit]
    have short := NameLimit.length_keep_le length_nameDigest_le s
    rw [hkept s, hkept (digestLongNames.keep s)]
    exact ⟨short, fun h => NameLimit.keep_of_le h, NameLimit.keep_of_le short⟩

/-- A name of 65 characters, all of them quotation marks of MySQL. -/
def marks : String :=
  String.ofList (List.replicate 65 '`')

theorem constraint_dropped_as_created_marks :
    (∃ after texts table renamed,
      (Expr.alterTable (.removal "orders" ["total", marks])).render .mysql {} = .ok () after ∧
        after.sql = ({} : Serializer).sql ++ Text.joinFull " "
          ["ALTER TABLE", table, Text.clause "RENAME TO" renamed, ", ".intercalate texts] ∧
        texts.length = 2 ∧
        texts[1]? = some (Text.joinFull " " ["DROP CONSTRAINT", mysql.constraintToken marks])) ∧
      mysql.constraintName = some digestLongNames ∧
      (mysql.keptConstraintName marks).length ≤ 64 ∧
      "total".length ≤ 64 ∧ mysql.keptConstraintName "total" = "total" ∧
      mysql.identifierQuote.toList = ['`'] ∧
      mysql.constraintToken marks = mysql.constraintToken (nameDigest marks) ∧
      ∀ s', mysql.constraintToken marks = mysql.constraintToken s' →
        marks = s' ∨ nameDigest marks = nameDigest s' ∨ s' = nameDigest marks ∨
          marks = nameDigest s' := by
  have hlimit : mysql.constraintName = some digestLongNames := rfl
  obtain ⟨-, dropped, removed, -, kept, told⟩ := constraint_dropped_as_created .mysql marks
  obtain ⟨-, -, -, -, total, -⟩ := constraint_dropped_as_created .mysql "total"
  obtain ⟨after, run, -⟩ := removed "orders" ["total", marks] {}
  obtain ⟨table, renamed, texts, -, -, hlength, hsql, htoken⟩ := dropped _ 1 rfl {} after run
  have hlong : mysql.keptConstraintName marks = nameDigest marks :=
    NameLimit.keep_of_lt (l := digestLongNames) (by decide)
  have again : mysql.constraintToken marks = mysql.constraintToken (nameDigest marks) := by
    rw [Grammar.constraintToken, Grammar.constraintToken, ← hlong, (kept hlimit).2.2]
  exact ⟨⟨after, texts, table, renamed, run, hsql, hlength, htoken⟩, hlimit, (kept hlimit).1,
    by decide, (total hlimit).2.1 (by decide), by decide, again,
    fun s' same => told '`' s' (by decide) (.inr hlimit) same⟩

end Dialect

end SqlRender
