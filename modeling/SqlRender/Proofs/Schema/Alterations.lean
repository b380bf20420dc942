import SqlRender.Expr.Build
import SqlRender.Proofs.Query.Omission
import SqlRender.Proofs.Render.Quiet

/-!
# Alterations of a table

The alteration of a table is a sentence of changes, each with a verb and what it applies to
(`AlterTable.sentence`), behind the warnings for what the dialect does not take. What is warned of
is told before the changes are written, and so by how many there are of them
(`AlterTable.warns_of_changes`).
-/

namespace SqlRender

open Rendering

/-! ## Names of constraints -/

namespace Expr

variable {d : Dialect}

/-- The text that the name of a constraint adds to a phrase: a name in quotes as the dialect keeps
it, and any other expression as a part. -/
def constraintText (d : Dialect) : Expr → Rendering String
  | .node (.identifier (.text name)) => pure (d.quoteIdentifier (d.keptConstraintName name))
  | e => e.partText d

/-- A constraint's name is given in quotes, or it is a part like others. -/
theorem constraintName_cases (d : Dialect) (e : Expr) :
    (∃ name, e = .node (.identifier (.text name))) ∨
      (e.piece d.toGrammar).constraintName d.toGrammar = (e.piece d.toGrammar).part ∧
        e.constraintText d = e.partText d := by
  cases e with
  | value v => exact .inr ⟨by cases v <;> rfl, rfl⟩
  | sequence isTuple items => exact .inr ⟨rfl, rfl⟩
  | node n =>
      cases n with
      | identifier name =>
          cases name with
          | text name => exact .inl ⟨name, rfl⟩
          | other o => exact .inr ⟨rfl, rfl⟩
      | commonTable label query columns recursive =>
          refine .inr ⟨?_, rfl⟩
          rw [piece_node]
          show Piece.constraintName _ ⟨_, if recursive.holds then _ else _, _⟩ =
            Piece.part ⟨_, if recursive.holds then _ else _, _⟩
          cases recursive.holds <;> rfl
      | _ => exact .inr ⟨rfl, rfl⟩

theorem fullTexts_constraintName (e : Expr) :
    Draft.fullTexts d.placeholder ((e.piece d.toGrammar).constraintName d.toGrammar) =
      (fun text => Text.full [text]) <$> e.constraintText d := by
  rcases e.constraintName_cases d with ⟨name, rfl⟩ | ⟨hname, htext⟩
  · exact Draft.fullTexts_words [d.quoteIdentifier (d.keptConstraintName name)]
  · rw [hname, htext, fullTexts_part]

/-- A part of a phrase warns of what its expression warns of. -/
theorem part_isQuiet {e : Expr} (quiet : IsQuiet (e.render d)) :
    ∀ draft ∈ (e.piece d.toGrammar).part, IsQuiet (draft.run d.placeholder) := by
  rcases e.part_cases d with rfl | ⟨s, rfl⟩ | ⟨hpart, -⟩
  · exact List.forall_mem_nil _
  · exact List.forall_mem_singleton.2 (.write s)
  · rw [hpart]
    exact List.forall_mem_singleton.2 quiet

theorem constraintName_isQuiet {e : Expr} (quiet : IsQuiet (e.render d)) :
    ∀ draft ∈ (e.piece d.toGrammar).constraintName d.toGrammar,
      IsQuiet (draft.run d.placeholder) := by
  rcases e.constraintName_cases d with ⟨name, rfl⟩ | ⟨hname, -⟩
  · exact List.forall_mem_singleton.2 (.write _)
  · rw [hname]
    exact part_isQuiet quiet

end Expr

/-! ## Changes -/

/-- A change of a table, its name apart. -/
inductive TableChange where
  | add (definition : Expr)
  | drop (column : Expr)
  | dropConstraint (name : Expr)
  | modify (definition : Expr)

namespace TableChange

variable {g : Grammar} {d : Dialect}

/-- What a change applies to. -/
def subject : TableChange → Expr
  | .add e | .drop e | .dropConstraint e | .modify e => e

/-- The verb of a change. -/
def verb (s : AlterTableSyntax) : TableChange → String
  | .add _ => "ADD"
  | .drop _ => "DROP"
  | .dropConstraint _ => "DROP CONSTRAINT"
  | .modify _ => s.modifyVerbOrFallback

/-- The text of what a change applies to. -/
def subjectText (d : Dialect) : TableChange → Rendering String
  | .dropConstraint e => e.constraintText d
  | .add e | .drop e | .modify e => e.partText d

/-- The text of a change. -/
def text (d : Dialect) (k : TableChange) : Rendering String :=
  (fun subject => Text.joinFull " " [k.verb d.alterTable, subject]) <$> k.subjectText d

/-- The drafts of what a change applies to. -/
def subjectDrafts (g : Grammar) : TableChange → List Draft
  | .dropConstraint e => (e.piece g).constraintName g
  | .add e | .drop e | .modify e => (e.piece g).part

/-- What a change is drafted to. -/
def draft (g : Grammar) (k : TableChange) : Draft :=
  AlterTable.alteration (k.verb g.alterTable) (k.subjectDrafts g)

theorem verb_ne_empty (s : AlterTableSyntax) (k : TableChange) : k.verb s ≠ "" := by
  cases k with
  | modify e =>
      rw [verb, AlterTableSyntax.modifyVerbOrFallback]
      split
      · split
        · decide
        · rename_i hverb
          simpa using hverb
      · decide
  | _ =>
      rw [verb]
      decide

theorem fullTexts_subject (k : TableChange) :
    Draft.fullTexts d.placeholder (k.subjectDrafts d.toGrammar) =
      (fun text => Text.full [text]) <$> k.subjectText d := by
  cases k with
  | dropConstraint e => exact e.fullTexts_constraintName
  | _ => exact Expr.fullTexts_part _

theorem render_draft (k : TableChange) :
    Rendering.render ((k.draft d.toGrammar).run d.placeholder) = k.text d := by
  have hverb : Draft.fullTexts d.placeholder [.text (k.verb d.alterTable)] =
      pure (Text.full [k.verb d.alterTable]) :=
    Draft.fullTexts_words [k.verb d.alterTable]
  rw [draft, AlterTable.alteration, Draft.render_phrase, ← List.singleton_append,
    Draft.fullTexts_append, hverb, fullTexts_subject, text]
  simp only [pure_bind, bind_pure_comp, Functor.map_map, ← Text.full_append]
  rfl

/-- A change that is rendered has its verb in front. -/
theorem text_ne_empty {k : TableChange} {text : String} (h : (k.text d).Gives text) :
    text ≠ "" := by
  rw [TableChange.text, map_eq_pure_bind] at h
  obtain ⟨subject, -, hpure⟩ := h.bind
  rw [← hpure.pure, Ne, Text.joinFull_eq_empty]
  exact fun hall => k.verb_ne_empty d.alterTable (hall _ (List.mem_cons_self ..))

/-- Changes that are rendered all have text. -/
theorem joinFull_of_given {separator : String} {ks : List TableChange} {texts : List String}
    (h : List.Forall₂ (fun k text => (k.text d).Gives text) ks texts) :
    Text.joinFull separator texts = separator.intercalate texts := by
  have hfull : ∀ text ∈ texts, text ≠ "" := by
    induction h with
    | nil => exact List.forall_mem_nil _
    | cons htext _ ih => exact List.forall_mem_cons.2 ⟨text_ne_empty htext, ih⟩
  rw [Text.joinFull, Text.full_eq_self hfull]

theorem draft_isQuiet {k : TableChange} (quiet : IsQuiet (k.subject.render d)) :
    IsQuiet ((k.draft d.toGrammar).run d.placeholder) := by
  refine Draft.run_join_isQuiet " " (List.forall_mem_cons.2 ⟨.write _, ?_⟩)
  cases k with
  | dropConstraint e => exact Expr.constraintName_isQuiet quiet
  | _ => exact Expr.part_isQuiet quiet

end TableChange

namespace AlterTable

variable {g : Grammar} {d : Dialect} {a : AlterTable Expr}

/-- The changes of a table, in the order in which they are written. -/
def changes (a : AlterTable Expr) : List TableChange :=
  (a.addColumns ++ a.addConstraints).map .add ++ a.dropColumns.map .drop ++
    a.dropConstraints.map .dropConstraint ++ a.modifyColumns.map .modify

/-- The fault in a name of a constraint that is dropped, if there is one. -/
def nameFault? (g : Grammar) (a : AlterTable Expr) : Option Fault :=
  a.dropConstraints.findSome? fun e => (e.piece g).constraintNameFault? g

/-- What is warned of before anything is written. -/
def announced (g : Grammar) (a : AlterTable Expr) : List Warning :=
  (if !g.alterTable.allowsBatch && a.changes.length > 1 then
    [Warning.singleAlteration g.name] else []) ++
  (if g.alterTable.modifyVerb.isNone && !a.modifyColumns.isEmpty then
    [Warning.noColumnModification g.name] else [])

/-- The parts of the phrase of an alteration. -/
def phraseParts (g : Grammar) (a : AlterTable Expr) : List Draft :=
  .text "ALTER TABLE" :: (a.table.piece g).part ++ (a.renameTo.piece g).clause "RENAME TO" ++
    [.join ", " (a.changes.map (TableChange.draft g))]

theorem alterations_eq (a : AlterTable Expr) :
    (a.map (Expr.piece g)).alterations g = a.changes.map (TableChange.draft g) := by
  simp only [alterations, changes, map, ← List.map_append, List.map_map]
  simp only [List.map_append, List.map_map]
  rfl

/-- An alteration is a phrase behind its warnings, unless the name of a constraint is at fault. -/
theorem draft_eq (g : Grammar) (a : AlterTable Expr) :
    (Expr.node (.alterTable a)).draft g =
      match a.nameFault? g with
      | some fault => .fail fault
      | none => .seq ((a.announced g).map .warn ++ [.phrase (a.phraseParts g)]) := by
  have hfault : (a.map (Expr.piece g)).dropConstraints.findSome?
      (Piece.constraintNameFault? g) = a.nameFault? g := by
    rw [nameFault?, map, List.findSome?_map]
    rfl
  have hwarnings : (a.map (Expr.piece g)).warnings g = a.announced g := by
    rw [warnings, announced, alterations_eq, List.length_map]
    simp only [map, List.isEmpty_map]
  rw [Expr.draft_node]
  show (a.map (Expr.piece g)).draft g = _
  rw [draft, hfault, hwarnings, alterations_eq]
  rfl

/-- The text of an alteration: the words before its changes, and these with commas between them. -/
def sentence (d : Dialect) (a : AlterTable Expr) : Rendering String := do
  let table ← a.table.partText d
  let renamed ← a.renameTo.bodyText d
  let texts ← a.changes.mapM (TableChange.text d)
  return Text.joinFull " "
    ["ALTER TABLE", table, Text.clause "RENAME TO" renamed, Text.joinFull ", " texts]

theorem render_phraseParts (a : AlterTable Expr) :
    Rendering.render ((Draft.phrase (a.phraseParts d.toGrammar)).run d.placeholder) =
      a.sentence d := by
  have hword : Draft.fullTexts d.placeholder [.text "ALTER TABLE"] =
      pure (Text.full ["ALTER TABLE"]) :=
    Draft.fullTexts_words ["ALTER TABLE"]
  have hchanges : Draft.renderAll d.placeholder (a.changes.map (TableChange.draft d.toGrammar)) =
      a.changes.mapM (TableChange.text d) := by
    rw [Draft.renderAll, List.mapM_map]
    exact congrArg (List.mapM · a.changes) (funext TableChange.render_draft)
  rw [phraseParts, Draft.render_phrase, ← List.singleton_append]
  simp only [Draft.fullTexts_append, hword, Expr.fullTexts_part, Expr.fullTexts_clause,
    Draft.fullTexts_single, Draft.render_join, hchanges]
  -- both sides render the same in turn, and differ in how the texts are put together
  simp only [sentence, Text.joinFull, bind_assoc, pure_bind, bind_map_left, map_bind,
    bind_pure_comp, Functor.map_map, ← Text.full_append, List.append_assoc]
  rfl

theorem phraseParts_isQuiet (quiet : ∀ e ∈ a.parts, IsQuiet (e.render d)) :
    IsQuiet ((Draft.phrase (a.phraseParts d.toGrammar)).run d.placeholder) := by
  simp only [parts, List.forall_mem_cons, List.forall_mem_append] at quiet
  obtain ⟨htable, hname, ⟨⟨⟨hadd, hmodify⟩, hdrop⟩, hconstrain⟩, hrelease⟩ := quiet
  have hchanges : ∀ k ∈ a.changes, IsQuiet (k.subject.render d) := by
    simp only [changes, List.forall_mem_append, List.forall_mem_map]
    exact ⟨⟨⟨⟨hadd, hconstrain⟩, hdrop⟩, hrelease⟩, hmodify⟩
  refine Draft.run_join_isQuiet " " ?_
  simp only [phraseParts, List.forall_mem_append, List.cons_append, List.forall_mem_cons]
  refine ⟨.write _, ⟨Expr.part_isQuiet htable, ?_⟩, ?_, List.forall_mem_nil _⟩
  · rw [Piece.clause]
    split
    · exact List.forall_mem_nil _
    · exact List.forall_mem_singleton.2 (Draft.run_clause_isQuiet _ hname)
  · refine Draft.run_join_isQuiet ", " fun draft hmem => ?_
    obtain ⟨k, hk, rfl⟩ := List.mem_map.1 hmem
    exact TableChange.draft_isQuiet (hchanges k hk)

/-! ## Runs -/

/-- An alteration is run behind its warnings, unless the name of a constraint is at fault. -/
theorem render_eq (a : AlterTable Expr) :
    (Expr.node (.alterTable a)).render d =
      match a.nameFault? d.toGrammar with
      | some fault => throw fault
      | none => announce (a.announced d.toGrammar) >>= fun _ =>
          (Draft.phrase (a.phraseParts d.toGrammar)).run d.placeholder := by
  rw [Expr.render, draft_eq]
  cases a.nameFault? d.toGrammar with
  | some fault => rfl
  | none => exact Draft.run_announce _ _

/-- What an alteration that is rendered adds is the texts of its changes behind its first words. -/
theorem exists_texts {before after : Serializer}
    (run : (Expr.node (.alterTable a)).render d before = .ok () after) :
    ∃ table renamed texts, (a.table.partText d).Gives table ∧
      (a.renameTo.bodyText d).Gives renamed ∧
      List.Forall₂ (fun k text => (TableChange.text d k).Gives text) a.changes texts ∧
      after.sql = before.sql ++ Text.joinFull " "
        ["ALTER TABLE", table, Text.clause "RENAME TO" renamed, ", ".intercalate texts] := by
  rw [render_eq] at run
  cases hfault : a.nameFault? d.toGrammar with
  | some fault =>
      rw [hfault] at run
      cases run
  | none =>
      simp only [hfault] at run
      obtain ⟨⟨⟩, s, hannounce, run⟩ := bind_eq_ok.1 run
      obtain ⟨text, u, hrender, hsql, -⟩ :=
        exists_render (Draft.run_isLocal d.placeholder _) (Draft.phrase_isTextual _) run
      rw [render_phraseParts] at hrender
      have hgives : (a.sentence d).Gives text := ⟨s, u, hrender⟩
      obtain ⟨table, htable, hgives⟩ := hgives.bind
      obtain ⟨renamed, hrenamed, hgives⟩ := hgives.bind
      obtain ⟨texts, htexts, hgives⟩ := hgives.bind
      have hchanges := htexts.mapM
      cases hannounce
      refine ⟨table, renamed, texts, htable, hrenamed, hchanges, hsql.trans ?_⟩
      rw [← hgives.pure, TableChange.joinFull_of_given hchanges]
      rfl

/-- An alteration whose parts warn of nothing warns of what it announces. -/
theorem warnings_of_quiet (quiet : ∀ e ∈ a.parts, IsQuiet (e.render d))
    (named : a.nameFault? d.toGrammar = none) (before : Serializer) :
    (stateAfter ((Expr.node (.alterTable a)).render d before)).warnings =
      before.warnings ++ a.announced d.toGrammar := by
  have hannounce : announce (a.announced d.toGrammar) before =
      .ok () { before with warnings := before.warnings ++ a.announced d.toGrammar } := rfl
  rw [render_eq, named]
  simp only
  rw [bind_of_ok hannounce]
  exact phraseParts_isQuiet quiet _

/-! ## Warnings -/

/-- How many alterations there are in all, a new name counted as one. -/
def count (a : AlterTable Expr) : Nat :=
  a.changes.length + if a.renameTo.isNull then 0 else 1

end AlterTable

/-- The verb that a dialect gives for modified columns, if it gives one. -/
def AlterTableSyntax.ownVerb? (s : AlterTableSyntax) : Option String :=
  s.modifyVerb.filter (!·.isEmpty)

theorem AlterTableSyntax.modifyVerbOrFallback_eq (s : AlterTableSyntax) :
    s.modifyVerbOrFallback = s.ownVerb?.getD fallbackModifyVerb := by
  unfold modifyVerbOrFallback ownVerb?
  cases s.modifyVerb with
  | none => rfl
  | some verb =>
      simp only [Option.filter_some]
      cases verb.isEmpty <;> rfl

namespace AlterTable

variable {g : Grammar} {d : Dialect} {a : AlterTable Expr}

theorem announced_sublist :
    (a.announced g).Sublist [.singleAlteration g.name, .noColumnModification g.name] := by
  have perhaps (condition : Bool) (w : Warning) :
      (if condition then [w] else []).Sublist [w] := by
    cases condition <;> simp
  exact (perhaps _ _).append (perhaps _ _)

theorem singleAlteration_mem_announced :
    .singleAlteration g.name ∈ a.announced g ↔
      (g.alterTable.allowsBatch = false ∧ 1 < a.count) ∧
        ¬ (a.renameTo.isNull = false ∧ a.changes.length = 1) := by
  have hmem : .singleAlteration g.name ∈ a.announced g ↔
      g.alterTable.allowsBatch = false ∧ 1 < a.changes.length := by
    simp [announced]
  rw [hmem, count]
  cases a.renameTo.isNull with
  | true => simp
  | false =>
      simp only [Bool.false_eq_true, if_false, true_and, and_assoc]
      refine and_congr_right fun _ => ?_
      omega

theorem noColumnModification_mem_announced :
    .noColumnModification g.name ∈ a.announced g ↔
      (g.alterTable.ownVerb? = none ∧ ∃ e, .modify e ∈ a.changes) ∧
        g.alterTable.modifyVerb ≠ some "" := by
  have hmem : .noColumnModification g.name ∈ a.announced g ↔
      g.alterTable.modifyVerb = none ∧ a.modifyColumns ≠ [] := by
    simp [announced]
  have hmodify : (∃ e, .modify e ∈ a.changes) ↔ a.modifyColumns ≠ [] := by
    simp [changes, List.eq_nil_iff_forall_not_mem]
  rw [hmem, hmodify, AlterTableSyntax.ownVerb?]
  cases hverb : g.alterTable.modifyVerb with
  | none => simp
  | some verb => simp +contextual [Option.filter_some]

/-- **Warnings of an alteration.** If its parts warn of nothing, an alteration warns before anything
is written, and then also if it ends in a fault, unless a name of a constraint is at fault already.
The first warning is there exactly if the dialect takes one alteration at a time and there are more,
a new name counted as one; but it is missing if there is a new name and one other change. The second
is there exactly if a column is modified and the dialect gives no verb for that, so that the one
that stands in is written; but it is missing if the verb that the dialect gives is empty. What is
written is all changes, in order and each with its verb. -/
theorem warns_of_changes (d : Dialect) (a : AlterTable Expr)
    (quiet : ∀ e ∈ a.parts, IsQuiet (e.render d)) (before : Serializer) :
    ((∃ fault, a.nameFault? d.toGrammar = some fault ∧
          (Expr.node (.alterTable a)).render d before = .error fault before) ∨
        ∃ logged,
          (stateAfter ((Expr.node (.alterTable a)).render d before)).warnings =
              before.warnings ++ logged ∧
            logged.Sublist [.singleAlteration d.name, .noColumnModification d.name] ∧
            (.singleAlteration d.name ∈ logged ↔
              (d.alterTable.allowsBatch = false ∧ 1 < a.count) ∧
                ¬ (a.renameTo.isNull = false ∧ a.changes.length = 1)) ∧
            (.noColumnModification d.name ∈ logged ↔
              (d.alterTable.ownVerb? = none ∧ ∃ e, .modify e ∈ a.changes) ∧
                d.alterTable.modifyVerb ≠ some "")) ∧
      (∀ e, (TableChange.modify e).verb d.alterTable =
        d.alterTable.ownVerb?.getD "ALTER COLUMN") ∧
      ∀ after, (Expr.node (.alterTable a)).render d before = .ok () after →
        ∃ table renamed texts, (a.table.partText d).Gives table ∧
          (a.renameTo.bodyText d).Gives renamed ∧
          List.Forall₂ (fun k text => (TableChange.text d k).Gives text) a.changes texts ∧
          after.sql = before.sql ++ Text.joinFull " "
            ["ALTER TABLE", table, Text.clause "RENAME TO" renamed, ", ".intercalate texts] := by
  refine ⟨?_, fun _ => d.alterTable.modifyVerbOrFallback_eq, fun _ => exists_texts⟩
  cases named : a.nameFault? d.toGrammar with
  | some fault =>
      refine .inl ⟨fault, rfl, ?_⟩
      rw [render_eq, named]
      rfl
  | none =>
      exact .inr ⟨a.announced d.toGrammar, warnings_of_quiet quiet named before, announced_sublist,
        singleAlteration_mem_announced, noColumnModification_mem_announced⟩

/-- A table gets a new name and a new column, and a column of it another type. -/
def reworking : AlterTable Expr where
  table := .node (.identifier "users")
  renameTo := .node (.identifier "people")
  addColumns := [.node (.columnDefinition (.node (.identifier "age"))
    (.node (.dataType .int .absent)) [])]
  modifyColumns := [.node (.alterColumnType (.node (.identifier "name"))
    (.node (.dataType .text .absent)))]

theorem warns_of_changes_reworking :
    (∀ e ∈ reworking.parts, IsQuiet (e.render .sqlite)) ∧
      reworking.nameFault? Dialect.sqlite.toGrammar = none ∧
      ∃ after logged, (Expr.node (.alterTable reworking)).render .sqlite {} = .ok () after ∧
        after.sql = "ALTER TABLE \"users\" RENAME TO \"people\" ADD \"age\" INTEGER, " ++
          "ALTER COLUMN \"name\" TEXT" ∧
        after.warnings = [] ++ logged ∧
        .singleAlteration "sqlite" ∈ logged ∧ .noColumnModification "sqlite" ∈ logged := by
  have quiet : ∀ e ∈ reworking.parts, IsQuiet (e.render .sqlite) := by
    have worded (e : Expr) (words : List String)
        (h : e.draft Dialect.sqlite.toGrammar = .phrase (words.map .text)) :
        IsQuiet (e.render .sqlite) := by
      rw [Expr.render, h]
      exact Draft.run_join_isQuiet " " (List.forall_mem_map.2 fun s _ => .write s)
    refine List.forall_mem_cons.2 ⟨.write _, List.forall_mem_cons.2 ⟨.write _,
      List.forall_mem_cons.2 ⟨worded _ ["\"age\"", "INTEGER"] ?_,
        List.forall_mem_singleton.2 (worded _ ["\"name\"", "TEXT"] ?_)⟩⟩⟩
    all_goals
      simp only [Expr.absent, Expr.draft, Expr.piece_node, Expr.piece_value, Node.map,
        List.map_nil]
      cbv
  have run : (Expr.node (.alterTable reworking)).render .sqlite {} =
      .ok () ⟨⟨["ALTER TABLE", " ", "\"users\"", " ", "RENAME TO \"people\"", " ",
        "ADD \"age\" INTEGER, ALTER COLUMN \"name\" TEXT"], none⟩, [],
        [.singleAlteration "sqlite", .noColumnModification "sqlite"]⟩ := by
    simp only [reworking, Expr.absent, Expr.render, Expr.draft, Expr.piece_node, Expr.piece_value,
      Node.map, AlterTable.map, List.map_cons, List.map_nil]
    cbv
  have named : reworking.nameFault? Dialect.sqlite.toGrammar = none := rfl
  obtain ⟨⟨fault, hfault, -⟩ | ⟨logged, hlogged, -, hsingle, hmodify⟩, -, -⟩ :=
    warns_of_changes .sqlite reworking quiet {}
  · cases hfault
  · rw [run] at hlogged
    exact ⟨quiet, named, _, logged, run, by decide +kernel, hlogged,
      hsingle.2 ⟨⟨rfl, by decide⟩, by decide⟩,
      hmodify.2 ⟨⟨rfl, _, .tail _ (.head _)⟩, (Option.some_ne_none "").symm⟩⟩

end AlterTable

end SqlRender
