import Mathlib.Data.List.Forall2
import SqlRender.Dialect.Basic
import SqlRender.Proofs.Text.Plain
import SqlRender.Render.Piece

/-!
# Likenesses

Two trees that differ in what they carry, and not in how they are built, are drafted alike. What
"alike" means is different from one question to the next, and none of the answers has to look at the
nodes: a likeness is any relation between drafts that every way of composing drafts respects. The
modules beside this one say that each kind of node respects it too, so that for a new question only
the likeness has to be found.
-/

namespace SqlRender

/-- Separators with related texts, or strays of the same type. -/
inductive Separator.Alike (text : String → String → Prop) : Separator → Separator → Prop where
  | text {s t : String} : text s t → Alike text (.text s) (.text t)
  | stray (typeName : String) : Alike text (.stray typeName) (.stray typeName)

/-- A relation between drafts that composition respects, over one between texts. -/
structure Likeness where
  text : String → String → Prop
  draft : Draft → Draft → Prop
  plain {s : String} : Text.isPlain s = true → text s s
  of_text {s t : String} : text s t → draft (.text s) (.text t)
  of_warn (w : Warning) : draft (.warn w) (.warn w)
  of_fail (f : Fault) : draft (.fail f) (.fail f)
  of_seq {ds es : List Draft} : List.Forall₂ draft ds es → draft (.seq ds) (.seq es)
  of_join {s t : Separator} {ds es : List Draft} :
    Separator.Alike text s t → List.Forall₂ draft ds es → draft (.join s ds) (.join t es)
  of_clause {s t : String} {d e : Draft} : text s t → draft d e → draft (.clause s d) (.clause t e)

namespace Likeness

variable (L : Likeness) {ds ds' es es' : List Draft}

/-- Lists of drafts that are alike one by one. -/
abbrev drafts (ds es : List Draft) : Prop :=
  List.Forall₂ L.draft ds es

/-! ## Compositions -/

variable {L}

theorem drafts.append (first : L.drafts ds es) (second : L.drafts ds' es') :
    L.drafts (ds ++ ds') (es ++ es') := by
  induction first with
  | nil => exact second
  | cons h _ ih => exact .cons h ih

theorem drafts.isEmpty_eq (h : L.drafts ds es) : ds.isEmpty = es.isEmpty := by
  cases h <;> rfl

theorem text_plain {s : String} (h : Text.isPlain s = true) : L.draft (.text s) (.text s) :=
  L.of_text (L.plain h)

/-- A fixed word before drafts. -/
theorem drafts.word {s : String} (h : Text.isPlain s = true) (rest : L.drafts ds es) :
    L.drafts (.text s :: ds) (.text s :: es) :=
  .cons (text_plain h) rest

theorem drafts_single {d e : Draft} (h : L.draft d e) : L.drafts [d] [e] :=
  .cons h .nil

theorem empty : L.draft .empty .empty :=
  L.of_seq .nil

theorem join {separator : String} (h : Text.isPlain separator = true) (items : L.drafts ds es) :
    L.draft (.join separator ds) (.join separator es) :=
  L.of_join (.text (L.plain h)) items

theorem group (h : L.drafts ds es) : L.draft (.group ds) (.group es) :=
  L.of_seq (drafts.word (by decide) (.cons (join (by decide) h) (drafts.word (by decide) .nil)))

theorem phrase (h : L.drafts ds es) : L.draft (.phrase ds) (.phrase es) :=
  join (by decide) h

theorem listClause {keyword : String} (hk : Text.isPlain keyword = true) (h : L.drafts ds es) :
    L.drafts (Draft.listClause keyword ds) (Draft.listClause keyword es) := by
  unfold Draft.listClause
  rw [h.isEmpty_eq]
  split
  · exact .nil
  · exact drafts_single (L.of_clause (L.plain hk) (join (by decide) h))

theorem wordIf {word : String} (h : Text.isPlain word = true) (condition : Bool) :
    L.drafts (Draft.wordIf condition word) (Draft.wordIf condition word) := by
  unfold Draft.wordIf
  split
  · exact drafts_single (text_plain h)
  · exact .nil

/-! ## Pieces -/

variable (L) (g : Grammar)

/-- Answers that are the same, or faults that are alike. -/
inductive answer : Except Fault Bool → Except Fault Bool → Prop where
  | ok (b : Bool) : answer (.ok b) (.ok b)
  | error {f f' : Fault} : L.draft (.fail f) (.fail f') → answer (.error f) (.error f')

/-- Shapes that tell surrounding nodes the same, up to what is written of it. No node asks whether
a part is a lock. -/
inductive shape : Shape → Shape → Prop where
  | absent : shape .absent .absent
  | verbatim {s t : String} : L.text s t → shape (.verbatim s) (.verbatim t)
  | items {ds es : List Draft} : L.drafts ds es → shape (.items ds) (.items es)
  | identifier {s t : String} :
    L.text (g.quoteIdentifier (g.keptConstraintName s))
      (g.quoteIdentifier (g.keptConstraintName t)) →
    shape (.identifier (.text s)) (.identifier (.text t))
  | nameless {o o' : Outline} : o.typeName = o'.typeName → o.size? = o'.size? →
    shape (.identifier (.other o)) (.identifier (.other o'))
  | keyword (k : Keyword) : shape (.keyword k) (.keyword k)
  | lock (l : LockingClause) : shape (.keyword (.locking l)) .plain
  | bracketed : shape .bracketed .bracketed
  | recursiveTable : shape .recursiveTable .recursiveTable
  | conflictAction {p q : ConflictParts} : Option.Rel L.drafts p.assignments q.assignments →
    Option.Rel L.draft p.filter q.filter → shape (.conflictAction p) (.conflictAction q)
  | conflictStrategy {a a' : Except Fault Bool} : L.answer a a' →
    shape (.conflictStrategy a) (.conflictStrategy a')
  | plain : shape .plain .plain

/-- Pieces that are drafted alike and look alike to surrounding nodes. -/
structure piece (p q : Piece) : Prop where
  draft : L.draft p.draft q.draft
  shape : L.shape g p.shape q.shape
  lacking (a : Ability) : L.draft (.fail (.lacks p.typeName a)) (.fail (.lacks q.typeName a))

/-- Lists of pieces that are alike one by one. -/
abbrev pieces (ps qs : List Piece) : Prop :=
  List.Forall₂ (L.piece g) ps qs

variable {L} {g}

theorem pieces_map {α : Type} {f f' : α → Piece} {xs : List α}
    (h : ∀ x ∈ xs, L.piece g (f x) (f' x)) : L.pieces g (xs.map f) (xs.map f') := by
  induction xs with
  | nil => exact .nil
  | cons x xs ih =>
      rw [List.forall_mem_cons] at h
      exact .cons h.1 (ih h.2)

namespace piece

variable {p q : Piece}

theorem isAbsent_eq (h : L.piece g p q) : p.isAbsent = q.isAbsent := by
  obtain ⟨-, hshape, -⟩ := h
  cases p
  cases q
  cases hshape <;> rfl

theorem isKeyword_eq {k : Keyword} (hk : ∀ l, k ≠ .locking l) (h : L.piece g p q) :
    p.isKeyword k = q.isKeyword k := by
  obtain ⟨-, hshape, -⟩ := h
  cases p
  cases q
  cases hshape with
  | lock l => exact decide_eq_false (hk l).symm
  | _ => rfl

theorem part (h : L.piece g p q) : L.drafts p.part q.part := by
  obtain ⟨hdraft, hshape, -⟩ := h
  cases p
  cases q
  cases hshape with
  | absent => exact .nil
  | verbatim htext => exact drafts_single (L.of_text htext)
  | _ => exact drafts_single hdraft

theorem clause {keyword : String} (hk : Text.isPlain keyword = true) (h : L.piece g p q) :
    L.drafts (p.clause keyword) (q.clause keyword) := by
  unfold Piece.clause
  rw [h.isAbsent_eq]
  split
  · exact .nil
  · exact drafts_single (L.of_clause (L.plain hk) h.draft)

theorem grouped (h : L.piece g p q) : L.draft p.grouped q.grouped := by
  obtain ⟨hdraft, hshape, -⟩ := h
  cases p
  cases q
  cases hshape with
  | items hitems => exact group hitems
  | _ => exact group (drafts_single hdraft)

end piece

namespace pieces

variable {ps qs : List Piece}

theorem drafts (h : L.pieces g ps qs) : L.drafts (Piece.drafts ps) (Piece.drafts qs) := by
  induction h with
  | nil => exact .nil
  | cons hp _ ih => exact .cons hp.draft ih

theorem parts (h : L.pieces g ps qs) : L.drafts (Piece.parts ps) (Piece.parts qs) := by
  induction h with
  | nil => exact .nil
  | cons hp _ ih => exact hp.part.append ih

theorem isEmpty_eq (h : L.pieces g ps qs) : ps.isEmpty = qs.isEmpty := by
  cases h <;> rfl

/-- Parentheses that are left out if there is nothing in them. -/
theorem groupIfAny (h : L.pieces g ps qs) :
    L.drafts (if ps.isEmpty then [] else [Draft.group (Piece.drafts ps)])
      (if qs.isEmpty then [] else [Draft.group (Piece.drafts qs)]) := by
  rw [h.isEmpty_eq]
  split
  · exact .nil
  · exact drafts_single (group h.drafts)

end pieces

end Likeness

end SqlRender
