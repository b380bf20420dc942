import SqlRender.Proofs.Query.Omission

/-!
# Keywords without a list

The columns that are given back, the arguments of DISTINCT and the common tables of a statement are
lists under a keyword. Whether the keyword is written is told by the length of the list, before any
of its items is rendered; so it stays when there are items and none of them has text
(`ListNode.render_of_silent`), as the keyword of a clause does not.
-/

namespace SqlRender

open Rendering

variable {d : Dialect}

/-- The nodes that put a keyword before a list of expressions. -/
inductive ListNode where
  | returning
  | distinct
  | commonTables

/-- Whether an expression is a common table that may refer to itself. -/
def Expr.isRecursiveTable : Expr → Bool
  | .node (.commonTable _ _ _ recursive) => recursive.holds
  | _ => false

namespace ListNode

/-- The node with a list of items. -/
def node (items : List Expr) : ListNode → Expr
  | .returning => .node (.returning items)
  | .distinct => .node (.distinct items)
  | .commonTables => .node (.commonTables items)

/-- Whether a dialect has no such list and drops it with a warning. -/
def isDropped (d : Dialect) : ListNode → Bool
  | .returning => !d.supportsReturning
  | .distinct | .commonTables => false

/-- The words before the items. -/
def words (items : List Expr) : ListNode → List String
  | .returning => ["RETURNING"]
  | .distinct => ["DISTINCT"]
  | .commonTables => if items.any Expr.isRecursiveTable then ["WITH", "RECURSIVE"] else ["WITH"]

/-- The items as they stand after the words. -/
def body (texts : List String) : ListNode → String
  | .distinct => "(" ++ Text.joinFull ", " texts ++ ")"
  | .returning | .commonTables => Text.joinFull ", " texts

/-- What such a node renders to. -/
def sentence (d : Dialect) (items : List Expr) (k : ListNode) : Rendering String :=
  if items.isEmpty then pure ""
  else if k.isDropped d then do
    warn (.noReturning d.name)
    return ""
  else (fun texts => Text.joinFull " " (k.words items ++ [k.body texts])) <$> Expr.itemTexts d items

/-- What is left of such a node if its items have no text. -/
def bare : ListNode → String
  | .returning => "RETURNING"
  | .distinct => "DISTINCT ()"
  | .commonTables => "WITH"

end ListNode

/-! ## What the nodes render to -/

theorem Expr.isRecursiveTable_piece (g : Grammar) (e : Expr) :
    (e.piece g).isRecursiveTable = e.isRecursiveTable := by
  cases e with
  | value v => cases v <;> rfl
  | sequence _ _ => rfl
  | node n =>
      rw [piece_node]
      cases n with
      | commonTable label query columns recursive =>
          show Piece.isRecursiveTable
            ⟨_, if recursive.holds then .recursiveTable else .plain, _⟩ = recursive.holds
          cases recursive.holds <;> rfl
      | _ => rfl

namespace ListNode

/-- The items as they are drafted after the words. -/
def draftBody (ds : List Draft) : ListNode → Draft
  | .distinct => .group ds
  | .returning | .commonTables => .join ", " ds

theorem render_draftBody (k : ListNode) (items : List Expr) :
    Rendering.render
        ((k.draftBody (Piece.drafts (items.map (Expr.piece d.toGrammar)))).run d.placeholder) =
      k.body <$> Expr.itemTexts d items := by
  cases k with
  | distinct => exact (Draft.render_group _).trans (congrArg _ (Expr.renderAll_drafts items))
  | returning => exact (Draft.render_join ..).trans (congrArg _ (Expr.renderAll_drafts items))
  | commonTables => exact (Draft.render_join ..).trans (congrArg _ (Expr.renderAll_drafts items))

/-- A node with a list is a phrase, unless the list is empty or dropped. -/
theorem draft_node (k : ListNode) (items : List Expr) :
    (k.node items).draft d.toGrammar =
      if items.isEmpty then .empty
      else if k.isDropped d then .warn (.noReturning d.name)
      else .phrase ((k.words items).map Draft.text ++
        [k.draftBody (Piece.drafts (items.map (Expr.piece d.toGrammar)))]) := by
  have hempty : (items.map (Expr.piece d.toGrammar)).isEmpty = items.isEmpty := List.isEmpty_map
  cases k with
  | returning =>
      rw [node, Expr.draft_node]
      show Draft.returning d.toGrammar (items.map (Expr.piece d.toGrammar)) = _
      rw [Draft.returning, hempty, isDropped]
      cases d.supportsReturning <;> rfl
  | distinct =>
      rw [node, Expr.draft_node]
      show Draft.distinct (items.map (Expr.piece d.toGrammar)) = _
      rw [Draft.distinct, hempty]
      rfl
  | commonTables =>
      have hrecursive : (items.map (Expr.piece d.toGrammar)).any Piece.isRecursiveTable =
          items.any Expr.isRecursiveTable := by
        rw [List.any_map]
        exact List.any_congr rfl fun e => e.isRecursiveTable_piece d.toGrammar
      rw [node, Expr.draft_node]
      show Draft.commonTables (items.map (Expr.piece d.toGrammar)) = _
      rw [Draft.commonTables, hempty, hrecursive, words]
      cases items.any Expr.isRecursiveTable <;> rfl

/-- A node with a list renders to its sentence. -/
theorem render_sentence (k : ListNode) (items : List Expr) :
    Rendering.render ((k.node items).render d) = k.sentence d items := by
  rw [Expr.render, draft_node, sentence]
  split
  · rfl
  · split
    · rfl
    · rw [Draft.render_words_append (k.render_draftBody items), Functor.map_map]

end ListNode

/-! ## Items without text -/

/-- What is done to a result matters only for results that are given. -/
theorem Rendering.map_congr_of_gives {α β : Type} {m : Rendering α} {f g : α → β}
    (h : ∀ a, m.Gives a → f a = g a) : f <$> m = g <$> m := by
  funext s
  cases hrun : m s with
  | ok a t => rw [map_of_ok hrun, map_of_ok hrun, h a ⟨s, t, hrun⟩]
  | error fault t => rw [map_of_error hrun, map_of_error hrun]

/-- A word in a phrase is in its text. -/
theorem Draft.phrase_gives_ne_empty {placeholder : Int → String} {ds : List Draft}
    (word : String) {text : String} (hmem : .text word ∈ ds) (hword : word ≠ "")
    (h : (Rendering.render ((Draft.phrase ds).run placeholder)).Gives text) : text ≠ "" := by
  rw [Draft.phrase, Draft.render_join, map_eq_pure_bind] at h
  obtain ⟨texts, htexts, hpure⟩ := h.bind
  rw [← hpure.pure, ne_eq, Text.joinFull_eq_empty]
  intro hall
  have heach := htexts.mapM
  clear h htexts hpure
  induction heach with
  | nil => cases hmem
  | cons hfirst _ ih =>
      rw [List.forall_mem_cons] at hall
      rcases List.mem_cons.1 hmem with rfl | hmem
      · rw [Draft.render_text] at hfirst
        exact hword (hfirst.pure.trans hall.1)
      · exact ih hmem hall.2

/-- A common table has text, whatever it consists of. -/
theorem Expr.text_of_isRecursiveTable {e : Expr} (h : e.isRecursiveTable = true) {text : String}
    (hgives : (Rendering.render (e.render d)).Gives text) : text ≠ "" := by
  unfold isRecursiveTable at h
  split at h
  · rename_i label query columns recursive
    rw [Expr.render, Expr.draft_node] at hgives
    exact Draft.phrase_gives_ne_empty "AS"
      (List.mem_append_right _ (List.mem_cons_self ..)) (by decide) hgives
  · cases h

namespace ListNode

/-- What is left of a node whose items have no text: the keyword, unless there are no items or the
dialect drops the node. -/
def remainder (d : Dialect) (items : List Expr) (k : ListNode) : Rendering String :=
  if items.isEmpty then pure ""
  else if k.isDropped d then do
    warn (.noReturning d.name)
    return ""
  else (fun _ => k.bare) <$> Expr.itemTexts d items

/-- Each item of a list that was rendered has given one of the texts. -/
theorem exists_gives_of_mem {items : List Expr} {texts : List String}
    (h : (Expr.itemTexts d items).Gives texts) {e : Expr} (hmem : e ∈ items) :
    ∃ text ∈ texts, (Rendering.render (e.render d)).Gives text := by
  have heach := h.mapM
  clear h
  induction heach with
  | nil => cases hmem
  | @cons e' text items texts hfirst _ ih =>
      rcases List.mem_cons.1 hmem with rfl | hmem
      · exact ⟨text, List.mem_cons_self .., hfirst⟩
      · obtain ⟨text', hmem', hgives⟩ := ih hmem
        exact ⟨text', List.mem_cons_of_mem _ hmem', hgives⟩

/-- The words before items without text. -/
theorem sentence_of_silent (k : ListNode) {items : List Expr}
    (silent : ∀ texts, (Expr.itemTexts d items).Gives texts → ∀ text ∈ texts, text = "") :
    k.sentence d items = k.remainder d items := by
  rw [sentence, remainder]
  refine ite_congr rfl (fun _ => rfl) fun _ => ite_congr rfl (fun _ => rfl) fun _ =>
    map_congr_of_gives fun texts hgives => ?_
  have hempty : Text.joinFull ", " texts = "" :=
    (Text.joinFull_eq_empty ..).2 (silent texts hgives)
  cases k with
  | returning =>
      rw [body, hempty]
      exact show Text.joinFull " " ["RETURNING", ""] = "RETURNING" by decide +kernel
  | distinct =>
      rw [body, hempty]
      exact show Text.joinFull " " ["DISTINCT", "()"] = "DISTINCT ()" by decide +kernel
  | commonTables =>
      -- a table that may refer to itself is never without text, so that no RECURSIVE is written
      have hplain : items.any Expr.isRecursiveTable = false := by
        rw [List.any_eq_false]
        intro e hmem hrecursive
        obtain ⟨text, htext, hitem⟩ := exists_gives_of_mem hgives hmem
        exact Expr.text_of_isRecursiveTable hrecursive hitem (silent texts hgives text htext)
      rw [words, hplain, body, hempty]
      exact show Text.joinFull " " ["WITH", ""] = "WITH" by decide +kernel

end ListNode

/-! ## Statements with such a node -/

/-- The statements that have a place for such a node: the columns to give back at the end, or the
common tables at the beginning. -/
inductive Host where
  | insertReturning (i : Insert Expr)
  | updateReturning (u : Update Expr)
  | deleteReturning (x : Delete Expr)
  | updateWith (u : Update Expr)
  | deleteWith (x : Delete Expr)
  | unionWith (u : Union Expr)

namespace Host

/-- The statement with an expression in the place. -/
def carrying (e : Expr) : Host → Expr
  | .insertReturning i => .node (.insert { i with returning := e })
  | .updateReturning u => .node (.update { u with returning := e })
  | .deleteReturning x => .node (.delete { x with returning := e })
  | .updateWith u => .node (.update { u with withTables := e })
  | .deleteWith x => .node (.delete { x with withTables := e })
  | .unionWith u => .node (.union { u with withTables := e })

/-- Whether the place is at the end. -/
def isLast : Host → Bool
  | .insertReturning _ | .updateReturning _ | .deleteReturning _ => true
  | .updateWith _ | .deleteWith _ | .unionWith _ => false

/-- What stands in the place and the rest of a statement, rendered in their order with a space
between them. -/
def around (part rest : Rendering String) (h : Host) : Rendering String :=
  if h.isLast then do
    let text ← rest
    let word ← part
    return Text.joinFull " " [text, word]
  else do
    let word ← part
    let text ← rest
    return Text.joinFull " " [word, text]

end Host

/-- Two renderings give the same results. -/
def Rendering.SameResults {α : Type} (m m' : Rendering α) : Prop :=
  ∀ s a t, m s = .ok a t ↔ m' s = .ok a t

namespace Host

/-- The draft of a statement is a phrase with the place in it, or a fault whatever is there. -/
theorem draft_carrying (h : Host) (g : Grammar) :
    (∃ fault, ∀ e, (h.carrying e).draft g = .fail fault) ∨
      ∃ ds, ∀ e, (h.carrying e).draft g =
        .phrase (if h.isLast then ds ++ (e.piece g).part else (e.piece g).part ++ ds) := by
  cases h with
  | insertReturning i =>
      have hdraft (e : Expr) : (carrying e (.insertReturning i)).draft g =
          ({ i.map (Expr.piece g) with returning := e.piece g } : Insert Piece).draft :=
        Expr.draft_node ..
      have hsource (e : Expr) : ({ i.map (Expr.piece g) with returning := e.piece g } :
          Insert Piece).source = (i.map (Expr.piece g)).source := rfl
      simp only [hdraft, Insert.draft, hsource]
      cases (i.map (Expr.piece g)).strategy.ignoresEarly with
      | error fault => exact .inl ⟨fault, fun e => rfl⟩
      | ok ignores => exact .inr ⟨_, fun e => rfl⟩
  | updateReturning u =>
      have hdraft (e : Expr) : (carrying e (.updateReturning u)).draft g =
          ({ u.map (Expr.piece g) with returning := e.piece g } : Update Piece).draft :=
        Expr.draft_node ..
      simp only [hdraft, Update.draft]
      exact .inr ⟨_, fun e => rfl⟩
  | deleteReturning x =>
      have hdraft (e : Expr) : (carrying e (.deleteReturning x)).draft g =
          ({ x.map (Expr.piece g) with returning := e.piece g } : Delete Piece).draft :=
        Expr.draft_node ..
      simp only [hdraft, Delete.draft]
      exact .inr ⟨_, fun e => rfl⟩
  | updateWith u =>
      have hdraft (e : Expr) : (carrying e (.updateWith u)).draft g =
          ({ u.map (Expr.piece g) with withTables := e.piece g } : Update Piece).draft :=
        Expr.draft_node ..
      simp only [hdraft, Update.draft, List.append_assoc]
      exact .inr ⟨_, fun e => rfl⟩
  | deleteWith x =>
      have hdraft (e : Expr) : (carrying e (.deleteWith x)).draft g =
          ({ x.map (Expr.piece g) with withTables := e.piece g } : Delete Piece).draft :=
        Expr.draft_node ..
      simp only [hdraft, Delete.draft, List.append_assoc]
      exact .inr ⟨_, fun e => rfl⟩
  | unionWith u =>
      have hdraft (e : Expr) : (carrying e (.unionWith u)).draft g =
          ({ u.map (Expr.piece g) with withTables := e.piece g } : Union Piece).draft g :=
        Expr.draft_node ..
      simp only [hdraft, Union.draft, List.append_assoc]
      cases (u.map (Expr.piece g)).members.isEmpty with
      | true => exact .inr ⟨_, fun e => rfl⟩
      | false =>
          cases Piece.pairs (u.map (Expr.piece g)).members with
          | error fault => exact .inl ⟨fault, fun e => rfl⟩
          | ok pairs => exact .inr ⟨_, fun e => rfl⟩

/-- A statement is what stands in its place and the rest, unless it fails whatever is there. -/
theorem render_carrying (h : Host) (e : Expr) :
    Rendering.SameResults (Rendering.render ((h.carrying e).render d))
      (h.around (e.partText d) (Rendering.render ((h.carrying .absent).render d))) := by
  rcases h.draft_carrying d.toGrammar with ⟨fault, hdraft⟩ | ⟨ds, hdraft⟩
  · have hfails (e : Expr) (s t : Serializer) (text : String) :
        Rendering.render ((h.carrying e).render d) s ≠ .ok text t := by
      rw [Expr.render, hdraft]
      intro hok
      cases hok
    intro s text t
    refine iff_of_false (hfails e s t text) fun hok => ?_
    rw [around] at hok
    split at hok
    · obtain ⟨own, u, hown, -⟩ := bind_eq_ok.1 hok
      exact hfails .absent _ _ _ hown
    · obtain ⟨word, u, -, hrest⟩ := bind_eq_ok.1 hok
      obtain ⟨own, v, hown, -⟩ := bind_eq_ok.1 hrest
      exact hfails .absent _ _ _ hown
  · have habsent : (h.carrying .absent).draft d.toGrammar = .phrase ds := by
      rw [hdraft]
      show Draft.phrase (if h.isLast then ds ++ [] else [] ++ ds) = _
      rw [List.append_nil, List.nil_append, ite_self]
    intro s text t
    rw [Expr.render, hdraft, Expr.render, habsent, around]
    split
    · rw [Draft.render_phrase_append, Expr.render_phrase_part]
    · rw [Draft.render_phrase_append, Expr.render_phrase_part]

end Host

namespace ListNode

/-- What is left is nothing only if the items were not looked at. -/
theorem remainder_eq_empty (k : ListNode) {items : List Expr} {text : String}
    (h : (k.remainder d items).Gives text) : text = "" ↔ items = [] ∨ k.isDropped d = true := by
  unfold remainder at h
  split at h
  · rename_i hempty
    exact iff_of_true h.pure.symm (.inl (List.isEmpty_iff.1 hempty))
  · rename_i hempty
    split at h
    · rename_i hdropped
      obtain ⟨-, -, hpure⟩ := h.bind
      exact iff_of_true hpure.pure.symm (.inr hdropped)
    · rename_i hkept
      rw [map_eq_pure_bind] at h
      obtain ⟨-, -, hpure⟩ := h.bind
      rw [← hpure.pure]
      refine iff_of_false (by cases k <;> decide) ?_
      rintro (rfl | hdropped)
      · exact hempty rfl
      · exact hkept hdropped

/-- **A keyword stays before a list without text.** If no item of such a node has text, the node
renders to its bare keyword, and to nothing exactly if it has no items or the dialect drops it; and
a statement with the node in its place renders to what is left of the node and the statement
without it. -/
theorem render_of_silent (d : Dialect) (k : ListNode) (items : List Expr)
    (silent : ∀ texts, (Expr.itemTexts d items).Gives texts → ∀ text ∈ texts, text = "") :
    Rendering.render ((k.node items).render d) = k.remainder d items ∧
      (∀ text, (k.remainder d items).Gives text →
        (text = "" ↔ items = [] ∨ k.isDropped d = true)) ∧
      ∀ h : Host, Rendering.SameResults (Rendering.render ((h.carrying (k.node items)).render d))
        (h.around (k.remainder d items) (Rendering.render ((h.carrying .absent).render d))) := by
  have hnode : Rendering.render ((k.node items).render d) = k.remainder d items :=
    (k.render_sentence items).trans (k.sentence_of_silent silent)
  refine ⟨hnode, fun text => k.remainder_eq_empty, fun h => ?_⟩
  have hpart : (k.node items).partText d = k.remainder d items := by
    rw [← hnode]
    cases k <;> rfl
  rw [← hpart]
  exact h.render_carrying _

/-- A dialect that gives rows back and has no access to JSON values. -/
def givingBack : Dialect :=
  { Dialect.generic with supportsReturning := true }

/-- A deletion that gives back a value that the dialect cannot reach. -/
def deletion : Delete Expr where
  table := .node (.identifier "t")
  predicate := .absent
  returning := .absent
  withTables := .absent

theorem render_of_silent_deletion :
    (∀ texts, (Expr.itemTexts givingBack [Select.unreached]).Gives texts →
        ∀ text ∈ texts, text = "") ∧
      Rendering.render ((returning.node [Select.unreached]).render givingBack) {} =
        .ok "RETURNING" {} ∧
      Rendering.render (((Host.deleteReturning deletion).carrying
        (returning.node [Select.unreached])).render givingBack) {} =
          .ok "DELETE FROM \"t\" RETURNING" {} := by
  have hitems : Expr.itemTexts givingBack [Select.unreached] = pure [""] := by
    simp only [Expr.itemTexts, Select.unreached, Expr.render, Expr.draft]
    rfl
  have hrest : Rendering.render (((Host.deleteReturning deletion).carrying .absent).render
      givingBack) {} = .ok "DELETE FROM \"t\"" {} := by
    simp only [Host.carrying, deletion, Expr.absent, Expr.render, Expr.draft, Expr.piece_node,
      Expr.piece_value, Node.map, Delete.map]
    cbv
  have silent : ∀ texts, (Expr.itemTexts givingBack [Select.unreached]).Gives texts →
      ∀ text ∈ texts, text = "" := by
    rw [hitems]
    intro texts hgives
    rw [← hgives.pure]
    simp
  have hremainder : returning.remainder givingBack [Select.unreached] = pure "RETURNING" := by
    rw [remainder, hitems]
    rfl
  obtain ⟨hnode, -, hhost⟩ := render_of_silent givingBack returning [Select.unreached] silent
  refine ⟨silent, by rw [hnode, hremainder]; rfl,
    (hhost (.deleteReturning deletion) {} _ _).2 ?_⟩
  have hjoin : Text.joinFull " " ["DELETE FROM \"t\"", "RETURNING"] =
      "DELETE FROM \"t\" RETURNING" := by decide +kernel
  rw [hremainder]
  refine (bind_of_ok hrest).trans ?_
  rw [pure_bind, hjoin]
  rfl

end ListNode

end SqlRender
