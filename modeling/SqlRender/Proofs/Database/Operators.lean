import SqlRender.Proofs.Dialect.Worded
import SqlRender.Proofs.Expr.OperatorTree
import SqlRender.Proofs.Text.Quoting

/-!
# Reading operators back

The text of a tree of operators and the values bound with it give back the operands, the operators
and the parentheses, in their order from left to right (`Database.outcome_operators`). They do not
give back how the operators are nested, which is left to the precedence that the database gives
them, unless the tree has parentheses around every operation that is an operand.

The text is read from left to right. Where an operand is wanted its first character tells what it
is, and where one is over a space tells that an operator comes. This asks something of the dialect:
identifiers must have a mark of their own around them, and placeholders must not look like
identifiers. `Database.operators_undone` has what becomes of a dialect that is not like that, and of
trees without parentheses in any dialect.
-/

namespace SqlRender

/-- A dialect in which the first character of an operand tells what it is. An `N` is what the word
after `IS` begins with if the operator is `IS NOT`. -/
structure Dialect.TellsOperands (d : Dialect) (mark : Char) : Prop where
  quote : d.identifierQuote.toList = [mark]
  apart : mark ∉ [' ', '*', '(', ')', '.', 'N']
  placeholder : ∀ n : Nat, ∃ c rest,
    (d.placeholder (n + 1)).toList = c :: rest ∧ c ∉ [mark, '*', '(', 'N']

/-- All built-in dialects are like that, with the placeholders of any driver. -/
theorem Dialect.IsBuiltin.tellsOperands {d : Dialect} (h : d.IsBuiltin) :
    ∃ mark, d.TellsOperands mark := by
  obtain ⟨base, hbase, style, hstyle⟩ := h
  obtain ⟨hgrammar, hplaceholder⟩ := withParamStyle_eq hstyle
  have marked : ∃ mark, base.identifierQuote.toList = [mark] ∧ (mark = '"' ∨ mark = '`') := by
    simp only [builtin, List.mem_cons, List.not_mem_nil, or_false] at hbase
    rcases hbase with rfl | rfl | rfl | rfl
    · exact ⟨'"', by decide, .inl rfl⟩
    · exact ⟨'"', by decide, .inl rfl⟩
    · exact ⟨'"', by decide, .inl rfl⟩
    · exact ⟨'`', by decide, .inr rfl⟩
  obtain ⟨mark, hquote, hmark⟩ := marked
  refine ⟨mark, by rw [hgrammar]; exact hquote, by rcases hmark with rfl | rfl <;> decide, ?_⟩
  intro n
  have first {c : Char} {s : String} (hc : c ∉ ['"', '`', '*', '(', 'N']) :
      ∃ c' rest, (String.ofList [c] ++ s).toList = c' :: rest ∧ c' ∉ [mark, '*', '(', 'N'] := by
    refine ⟨c, s.toList, by simp, ?_⟩
    rcases hmark with rfl | rfl <;> simp_all
  rcases Placeholder.eq_of_style? hplaceholder with h | h | h | h <;> rw [h]
  · exact first (c := '?') (s := "") (by decide)
  · exact first (c := ':') (by decide)
  · exact first (c := '$') (by decide)
  · exact first (c := '%') (s := "s") (by decide)

/-! ## Operators -/

/-- No operator is the beginning of another one's words, except for one. -/
theorem WrittenOperator.text_prefix (o o' : WrittenOperator)
    (h : o.val.text.toList ++ [' '] <+: o'.val.text.toList) :
    o'.val.text.toList = o.val.text.toList ++ " NOT".toList := by
  have listed : ∀ o ∈ (Named.all : List BinaryOperator), ∀ o' ∈ (Named.all : List BinaryOperator),
      o.text.toList ++ [' '] <+: o'.text.toList →
      o'.text.toList = o.text.toList ++ " NOT".toList := by decide
  have all (o : BinaryOperator) : o ∈ (Named.all : List BinaryOperator) := by cases o <;> decide
  exact listed o.val (all _) o'.val (all _) h

theorem WrittenOperator.eq_of_text {o o' : WrittenOperator} (h : o.val.text = o'.val.text) :
    o = o' := by
  have listed : ∀ o ∈ (Named.all : List BinaryOperator), ∀ o' ∈ (Named.all : List BinaryOperator),
      o.text = o'.text → o = o' := by decide
  have all (o : BinaryOperator) : o ∈ (Named.all : List BinaryOperator) := by cases o <;> decide
  exact Subtype.ext (listed o.val (all _) o'.val (all _) h)

/-- An operator is told from its words if the operand after it does not begin like `NOT`. -/
theorem WrittenOperator.eq_of_append {o o' : WrittenOperator} {rest rest' : List Char}
    (hrest : rest.head? ≠ some 'N') (hrest' : rest'.head? ≠ some 'N')
    (h : o.val.text.toList ++ ' ' :: rest = o'.val.text.toList ++ ' ' :: rest') :
    o = o' ∧ rest = rest' := by
  -- if the words differ then those of one operator go on where the other one's are over
  have shorter {o o' : WrittenOperator} {rest rest' more : List Char}
      (hrest : rest.head? ≠ some 'N') (ho : o'.val.text.toList = o.val.text.toList ++ more)
      (h : ' ' :: rest = more ++ ' ' :: rest') : o = o' ∧ rest = rest' := by
    cases more with
    | nil =>
        rw [List.append_nil] at ho
        exact ⟨eq_of_text (String.toList_inj.1 ho.symm), (List.cons.inj h).2⟩
    | cons c more =>
        obtain ⟨rfl, hmore⟩ := List.cons.inj h
        have hwords := text_prefix o o' ⟨more, by rw [ho]; simp⟩
        rw [ho] at hwords
        obtain ⟨rfl⟩ := List.append_cancel_left hwords
        rw [hmore] at hrest
        exact absurd rfl hrest
  rcases List.append_eq_append_iff.1 h with ⟨more, ho, hmore⟩ | ⟨more, ho, hmore⟩
  · exact shorter hrest ho hmore
  · obtain ⟨heq, hends⟩ := shorter hrest' ho hmore
    exact ⟨heq.symm, hends.symm⟩

/-! ## Columns -/

/-- Nothing comes next, or what comes after an operand. -/
def EndsName (rest : List Char) : Prop :=
  ∀ c ∈ rest.head?, c = ' ' ∨ c = ')'

section Columns

variable {d : Dialect} {mark : Char}

/-- The characters of a name that stands last. -/
def nameChars (d : Dialect) (name : String) : List Char :=
  if name = "*" then ['*'] else (d.quoteIdentifier name).toList

/-- The characters of a column. -/
def ColumnName.chars (d : Dialect) (c : ColumnName) : List Char :=
  c.table.elim [] (fun t => (d.quoteIdentifier t).toList ++ ['.']) ++ nameChars d c.name

theorem ColumnName.toList_texts (d : Dialect) (c : ColumnName) :
    (String.join (c.texts d.toGrammar)).toList = c.chars d := by
  obtain ⟨name, table⟩ := c
  unfold texts chars nameChars
  cases table <;> by_cases h : name = "*" <;> simp [h, String.join_cons]

namespace Dialect.TellsOperands

variable (tells : d.TellsOperands mark)

include tells

theorem toList_quoteIdentifier (name : String) :
    (d.quoteIdentifier name).toList = mark :: (Text.doubled mark name.toList ++ [mark]) :=
  Text.toList_quote tells.quote name

theorem quoteIdentifier_ne (name : String) : d.quoteIdentifier name ≠ "" :=
  Text.quote_ne tells.quote name

theorem not_mark {c : Char} (h : c ∈ [' ', '*', '(', ')', '.', 'N']) : c ≠ mark := by
  rintro rfl
  exact tells.apart h

theorem head_ne_mark {rest : List Char} (h : EndsName rest) : rest.head? ≠ some mark := by
  intro hhead
  rcases h mark hhead with rfl | rfl
  · exact tells.apart (by decide)
  · exact tells.apart (by decide)

/-- A quoted name is told from what comes next if that is no mark. -/
theorem quoted_append_inj {name name' : String} {rest rest' : List Char}
    (hrest : rest.head? ≠ some mark) (hrest' : rest'.head? ≠ some mark)
    (h : (d.quoteIdentifier name).toList ++ rest = (d.quoteIdentifier name').toList ++ rest') :
    name = name' ∧ rest = rest' := by
  rw [tells.toList_quoteIdentifier, tells.toList_quoteIdentifier] at h
  have hinside : Text.doubled mark name.toList ++ mark :: rest =
      Text.doubled mark name'.toList ++ mark :: rest' := by
    simpa using h
  obtain ⟨hname, hends⟩ := Text.doubled_append_inj hrest hrest' hinside
  exact ⟨String.toList_inj.1 hname, hends⟩

theorem nameChars_append_inj {name name' : String} {rest rest' : List Char}
    (hrest : EndsName rest) (hrest' : EndsName rest')
    (h : nameChars d name ++ rest = nameChars d name' ++ rest') : name = name' ∧ rest = rest' := by
  unfold nameChars at h
  by_cases hstar : name = "*"
  · by_cases hstar' : name' = "*"
    · rw [if_pos hstar, if_pos hstar'] at h
      exact ⟨hstar.trans hstar'.symm, (List.cons.inj h).2⟩
    · rw [if_pos hstar, if_neg hstar', tells.toList_quoteIdentifier] at h
      exact absurd (List.cons.inj h).1 (tells.not_mark (by decide))
  · by_cases hstar' : name' = "*"
    · rw [if_neg hstar, if_pos hstar', tells.toList_quoteIdentifier] at h
      exact absurd (List.cons.inj h).1.symm (tells.not_mark (by decide))
    · rw [if_neg hstar, if_neg hstar'] at h
      exact tells.quoted_append_inj (tells.head_ne_mark hrest) (tells.head_ne_mark hrest') h

/-- A point comes next after the name of a table, and not after that of a column. -/
theorem nameChars_ne_qualified {name table : String} {rest rest' : List Char}
    (hrest : EndsName rest) :
    nameChars d name ++ rest ≠ (d.quoteIdentifier table).toList ++ '.' :: rest' := by
  intro h
  unfold nameChars at h
  by_cases hstar : name = "*"
  · rw [if_pos hstar, tells.toList_quoteIdentifier] at h
    exact absurd (List.cons.inj h).1 (tells.not_mark (by decide))
  · rw [if_neg hstar] at h
    have hpoint : ('.' :: rest').head? ≠ some mark :=
      fun hhead => tells.not_mark (c := '.') (by decide) (Option.some.inj hhead)
    obtain ⟨-, rfl⟩ := tells.quoted_append_inj (tells.head_ne_mark hrest) hpoint h
    rcases hrest '.' rfl with hdot | hdot <;> cases hdot

/-- A column is told from what comes after it. -/
theorem column_append_inj {c c' : ColumnName} {rest rest' : List Char} (hrest : EndsName rest)
    (hrest' : EndsName rest') (h : c.chars d ++ rest = c'.chars d ++ rest') :
    c = c' ∧ rest = rest' := by
  obtain ⟨name, table⟩ := c
  obtain ⟨name', table'⟩ := c'
  cases table with
  | none =>
      cases table' with
      | none =>
          obtain ⟨rfl, hends⟩ := tells.nameChars_append_inj hrest hrest' h
          exact ⟨rfl, hends⟩
      | some t' =>
          have h' : nameChars d name ++ rest =
              (d.quoteIdentifier t').toList ++ '.' :: (nameChars d name' ++ rest') := by
            simpa [ColumnName.chars] using h
          exact absurd h' (tells.nameChars_ne_qualified hrest)
  | some t =>
      cases table' with
      | none =>
          have h' : nameChars d name' ++ rest' =
              (d.quoteIdentifier t).toList ++ '.' :: (nameChars d name ++ rest) := by
            simpa [ColumnName.chars] using h.symm
          exact absurd h' (tells.nameChars_ne_qualified hrest')
      | some t' =>
          have h' : (d.quoteIdentifier t).toList ++ '.' :: (nameChars d name ++ rest) =
              (d.quoteIdentifier t').toList ++ '.' :: (nameChars d name' ++ rest') := by
            simpa [ColumnName.chars] using h
          have hpoint (more : List Char) : ('.' :: more).head? ≠ some mark :=
            fun hhead => tells.not_mark (c := '.') (by decide) (Option.some.inj hhead)
          obtain ⟨rfl, hname⟩ := tells.quoted_append_inj (hpoint _) (hpoint _) h'
          obtain ⟨rfl, hends⟩ :=
            tells.nameChars_append_inj hrest hrest' (List.cons.inj hname).2
          exact ⟨rfl, hends⟩

/-- A column begins with a mark or is a star. -/
theorem head_column (c : ColumnName) (rest : List Char) :
    ∃ x more, c.chars d ++ rest = x :: more ∧ (x = mark ∨ x = '*') := by
  obtain ⟨name, table⟩ := c
  cases table with
  | some t =>
      refine ⟨mark, Text.doubled mark t.toList ++ mark :: '.' :: (nameChars d name ++ rest), ?_,
        .inl rfl⟩
      simp [ColumnName.chars, tells.toList_quoteIdentifier]
  | none =>
      by_cases hstar : name = "*"
      · exact ⟨'*', rest, by simp [ColumnName.chars, nameChars, hstar], .inr rfl⟩
      · refine ⟨mark, Text.doubled mark name.toList ++ mark :: rest, ?_, .inl rfl⟩
        simp [ColumnName.chars, nameChars, hstar, tells.toList_quoteIdentifier]

end Dialect.TellsOperands

end Columns

/-! ## Tokens -/

namespace OperatorToken

variable {d : Dialect} {mark : Char}

/-- Tokens that may come next where an operand is wanted, or where one is over. -/
inductive Follow : Bool → List OperatorToken → Prop where
  | nil : Follow false []
  | column (c : ColumnName) {ts : List OperatorToken} : Follow false ts →
    Follow true (.column c :: ts)
  | bound (v : Value) {ts : List OperatorToken} : Follow false ts → Follow true (.bound v :: ts)
  | opening {ts : List OperatorToken} : Follow true ts → Follow true (.opening :: ts)
  | closing {ts : List OperatorToken} : Follow false ts → Follow false (.closing :: ts)
  | operator (o : WrittenOperator) {ts : List OperatorToken} : Follow true ts →
    Follow false (.operator o :: ts)

/-- The characters of tokens, after as many values as have been bound. -/
def spelling (d : Dialect) (bound : Nat) (ts : List OperatorToken) : List Char :=
  (Segment.write d.placeholder bound (ts.flatMap (segments d.toGrammar))).toList

/-- The values of tokens. -/
def values (d : Dialect) (ts : List OperatorToken) : List Value :=
  Segment.values (ts.flatMap (segments d.toGrammar))

section Spelling

variable (k : Nat) (ts : List OperatorToken)

theorem write_texts (texts : List String) (rest : List Segment) :
    Segment.write d.placeholder k (texts.map .text ++ rest) =
      String.join texts ++ Segment.write d.placeholder k rest := by
  induction texts with
  | nil => simp
  | cons text texts ih =>
      rw [List.map_cons, List.cons_append, Segment.write, ih, String.join_cons,
        String.append_assoc]

theorem values_texts (texts : List String) (rest : List Segment) :
    Segment.values (texts.map .text ++ rest) = Segment.values rest := by
  induction texts with
  | nil => rfl
  | cons text texts ih => exact ih

theorem spelling_column (c : ColumnName) :
    spelling d k (.column c :: ts) = c.chars d ++ spelling d k ts := by
  rw [spelling, List.flatMap_cons, segments, write_texts, String.toList_append,
    ColumnName.toList_texts]
  rfl

theorem values_column (c : ColumnName) : values d (.column c :: ts) = values d ts := by
  rw [values, List.flatMap_cons, segments, values_texts]
  rfl

theorem spelling_bound (v : Value) :
    spelling d k (.bound v :: ts) = (d.placeholder (k + 1)).toList ++ spelling d (k + 1) ts := by
  simp [spelling, segments, Segment.write]

theorem spelling_operator (o : WrittenOperator) :
    spelling d k (.operator o :: ts) = ' ' :: (o.val.text.toList ++ ' ' :: spelling d k ts) := by
  simp [spelling, segments, Segment.write]

theorem spelling_opening : spelling d k (.opening :: ts) = '(' :: spelling d k ts := by
  simp [spelling, segments, Segment.write]

theorem spelling_closing : spelling d k (.closing :: ts) = ')' :: spelling d k ts := by
  simp [spelling, segments, Segment.write]

end Spelling

/-- After an operand there is a space, a closing parenthesis or nothing. -/
theorem endsName_spelling {ts : List OperatorToken} (h : Follow false ts) (k : Nat) :
    EndsName (spelling d k ts) := by
  intro c hc
  cases h with
  | nil => cases hc
  | closing _ =>
      rw [spelling_closing] at hc
      exact .inr (Option.some.inj hc).symm
  | operator o _ =>
      rw [spelling_operator] at hc
      exact .inl (Option.some.inj hc).symm

/-- No operand begins with an `N`. -/
theorem head_spelling (tells : d.TellsOperands mark) {ts : List OperatorToken}
    (h : Follow true ts) (k : Nat) : (spelling d k ts).head? ≠ some 'N' := by
  intro hhead
  cases h with
  | column c _ =>
      rw [spelling_column] at hhead
      obtain ⟨x, more, hx, hmark⟩ := tells.head_column c (spelling d k _)
      rw [hx] at hhead
      cases hhead
      rcases hmark with hmark | hmark
      · exact tells.not_mark (by decide) hmark
      · cases hmark
  | bound v _ =>
      rw [spelling_bound] at hhead
      obtain ⟨x, more, hx, hmark⟩ := tells.placeholder k
      rw [hx] at hhead
      cases hhead
      exact hmark (by simp)
  | opening _ =>
      rw [spelling_opening] at hhead
      cases hhead

/-- A placeholder does not begin like a column. -/
theorem placeholder_ne_column (tells : d.TellsOperands mark) (k : Nat) (c : ColumnName)
    (rest rest' : List Char) :
    (d.placeholder (k + 1)).toList ++ rest ≠ c.chars d ++ rest' := by
  intro h
  obtain ⟨x, more, hx, hmark⟩ := tells.head_column c rest'
  obtain ⟨y, more', hy, hout⟩ := tells.placeholder k
  rw [hx, hy] at h
  cases h
  rcases hmark with rfl | rfl
  · exact hout (by simp)
  · exact hout (by simp)

/-- Only an opening parenthesis begins like one. -/
theorem opening_ne (tells : d.TellsOperands mark) {ts : List OperatorToken} (h : Follow true ts)
    (k : Nat) {rest : List Char} (heq : '(' :: rest = spelling d k ts) :
    ∃ ts', ts = .opening :: ts' := by
  cases h with
  | @column c ts' _ =>
      rw [spelling_column] at heq
      obtain ⟨x, more, hx, hmark⟩ := tells.head_column c (spelling d k ts')
      rw [hx] at heq
      cases heq
      rcases hmark with hmark | hmark
      · exact absurd hmark (tells.not_mark (by decide))
      · cases hmark
  | @bound v ts' _ =>
      rw [spelling_bound] at heq
      obtain ⟨x, more, hx, hmark⟩ := tells.placeholder k
      rw [hx] at heq
      cases heq
      exact absurd (by simp) hmark
  | @opening ts' _ => exact ⟨ts', rfl⟩

/-- **Reading.** Tokens are told from their characters and their values. -/
theorem eq_of_spelling (tells : d.TellsOperands mark) {operandNext : Bool}
    {ts : List OperatorToken} (h : Follow operandNext ts) :
    ∀ {ts' : List OperatorToken} {k : Nat}, Follow operandNext ts' →
      spelling d k ts = spelling d k ts' → values d ts = values d ts' → ts = ts' := by
  induction h with
  | nil =>
      intro ts' k h' hchars _
      cases h' with
      | nil => rfl
      | closing _ =>
          rw [spelling_closing] at hchars
          cases hchars
      | operator o _ =>
          rw [spelling_operator] at hchars
          cases hchars
  | @column c ts hts ih =>
      intro ts' k h' hchars hvalues
      rw [spelling_column] at hchars
      cases h' with
      | @column c' ts' hts' =>
          rw [spelling_column] at hchars
          rw [values_column, values_column] at hvalues
          obtain ⟨rfl, hrest⟩ := tells.column_append_inj (endsName_spelling hts k)
            (endsName_spelling hts' k) hchars
          rw [ih hts' hrest hvalues]
      | bound v _ =>
          rw [spelling_bound] at hchars
          exact absurd hchars.symm (placeholder_ne_column tells k c _ _)
      | opening hts' =>
          rw [spelling_opening, ← spelling_column] at hchars
          obtain ⟨_, heq⟩ := opening_ne tells (.column c hts) k hchars.symm
          cases heq
  | @bound v ts hts ih =>
      intro ts' k h' hchars hvalues
      rw [spelling_bound] at hchars
      cases h' with
      | column c _ =>
          rw [spelling_column] at hchars
          exact absurd hchars (placeholder_ne_column tells k c _ _)
      | @bound v' ts' hts' =>
          rw [spelling_bound] at hchars
          obtain ⟨rfl, hrest⟩ := List.cons.inj hvalues
          rw [ih hts' (List.append_cancel_left hchars) hrest]
      | opening hts' =>
          rw [spelling_opening, ← spelling_bound] at hchars
          obtain ⟨_, heq⟩ := opening_ne tells (.bound v hts) k hchars.symm
          cases heq
  | @opening ts hts ih =>
      intro ts' k h' hchars hvalues
      rw [spelling_opening] at hchars
      obtain ⟨rest, rfl⟩ := opening_ne tells h' k hchars
      rw [spelling_opening] at hchars
      cases h' with
      | opening hrest => rw [ih hrest (List.cons.inj hchars).2 hvalues]
  | @closing ts hts ih =>
      intro ts' k h' hchars hvalues
      rw [spelling_closing] at hchars
      cases h' with
      | nil => cases hchars
      | closing hts' =>
          rw [spelling_closing] at hchars
          rw [ih hts' (List.cons.inj hchars).2 hvalues]
      | operator o _ =>
          rw [spelling_operator] at hchars
          cases hchars
  | @operator o ts hts ih =>
      intro ts' k h' hchars hvalues
      rw [spelling_operator] at hchars
      cases h' with
      | nil => cases hchars
      | closing _ =>
          rw [spelling_closing] at hchars
          cases hchars
      | operator o' hts' =>
          rw [spelling_operator] at hchars
          obtain ⟨rfl, hrest⟩ := WrittenOperator.eq_of_append (head_spelling tells hts k)
            (head_spelling tells hts' k) (List.cons.inj hchars).2
          rw [ih hts' hrest hvalues]

end OperatorToken

/-- A tree begins where an operand is wanted and is over where one is. -/
theorem OperatorTree.follow_tokens (t : OperatorTree) {ts : List OperatorToken}
    (h : OperatorToken.Follow false ts) : OperatorToken.Follow true (t.tokens ++ ts) := by
  induction t generalizing ts with
  | column c => exact .column c h
  | bound v => exact .bound v h
  | operation left o right hleft hright =>
      rw [tokens, List.append_assoc]
      exact hleft (.operator o (hright h))
  | grouped inner ih =>
      rw [tokens, List.cons_append, List.append_assoc]
      exact .opening (ih (.closing h))

/-! ## Queries -/

/-- A tree of operators is always rendered, token by token. -/
theorem Database.outcome_tokens (db : Database)
    (visible : ∀ n : Nat, db.dialect.placeholder (n + 1) ≠ "")
    (marked : ∀ s, db.dialect.quoteIdentifier s ≠ "") (elapsed : Float) (t : OperatorTree) :
    (db.render elapsed t.expr).outcome =
      .ok ⟨Segment.write db.dialect.placeholder 0
          (t.tokens.flatMap (OperatorToken.segments db.dialect.toGrammar)),
        OperatorToken.values db.dialect t.tokens⟩ := by
  rw [Database.outcome_eq_ok_iff visible, t.segments_expr marked]
  exact ⟨t.isSound_draft _, rfl, rfl⟩

/-- **Operators are read back.** A tree of operators is always rendered. Its text and its values are
those of another such tree exactly if both have the same operands, operators and parentheses in the
same order; and if in both every operation that is an operand stands in parentheses, they are the
same tree. -/
theorem Database.outcome_operators (db : Database) {mark : Char}
    (tells : db.dialect.TellsOperands mark) (elapsed elapsed' : Float) (t t' : OperatorTree) :
    (∃ q, (db.render elapsed t.expr).outcome = .ok q) ∧
      ((db.render elapsed t.expr).outcome = (db.render elapsed' t'.expr).outcome ↔
        t.tokens = t'.tokens) ∧
      (t.IsGrouped → t'.IsGrouped →
        (db.render elapsed t.expr).outcome = (db.render elapsed' t'.expr).outcome → t = t') := by
  have visible : ∀ n : Nat, db.dialect.placeholder (n + 1) ≠ "" := by
    intro n hempty
    obtain ⟨c, rest, hc, -⟩ := tells.placeholder n
    rw [hempty] at hc
    cases hc
  have given (t : OperatorTree) (elapsed : Float) :=
    db.outcome_tokens visible tells.quoteIdentifier_ne elapsed t
  have told : (db.render elapsed t.expr).outcome = (db.render elapsed' t'.expr).outcome ↔
      t.tokens = t'.tokens := by
    rw [given, given]
    constructor
    · intro h
      obtain ⟨hsql, hbinds⟩ := RenderedQuery.mk.inj (Except.ok.inj h)
      have follow (t : OperatorTree) : OperatorToken.Follow true t.tokens := by
        rw [← List.append_nil t.tokens]
        exact t.follow_tokens .nil
      exact OperatorToken.eq_of_spelling tells (follow t) (k := 0) (follow t')
        (congrArg String.toList hsql) hbinds
    · intro h
      rw [h]
  refine ⟨⟨_, given t elapsed⟩, told, ?_⟩
  intro grouped grouped' h
  exact OperatorTree.eq_of_tokens grouped grouped' (told.1 h)

namespace OperatorTree

/-- A column by its name. -/
def named (name : String) : OperatorTree :=
  .column { name := name }

/-- Two trees that must both hold. -/
def both (left right : OperatorTree) : OperatorTree :=
  .operation left ⟨.and, nofun⟩ right

/-- Two trees of which one must hold. -/
def either (left right : OperatorTree) : OperatorTree :=
  .operation left ⟨.or, nofun⟩ right

/-- Two trees that must be equal. -/
def equals (left right : OperatorTree) : OperatorTree :=
  .operation left ⟨.equal, nofun⟩ right

end OperatorTree

open OperatorTree

theorem Database.outcome_operators_grouped :
    Dialect.generic.TellsOperands '"' ∧
      (Database.render { dialect := .generic } 0
          (both (named "a") (.grouped (either (named "b") (.bound (.int 1))))).expr).outcome ≠
        (Database.render { dialect := .generic } 0
          (either (.grouped (both (named "a") (named "b"))) (.bound (.int 1))).expr).outcome := by
  have tells : Dialect.generic.TellsOperands '"' := by
    refine ⟨by decide, by decide, fun n => ⟨'?', [], ?_, by decide⟩⟩
    show "?".toList = ['?']
    decide
  have left : (both (named "a") (.grouped (either (named "b") (.bound (.int 1))))).IsGrouped :=
    ⟨rfl, rfl, trivial, rfl, rfl, trivial, trivial⟩
  have right : (either (.grouped (both (named "a") (named "b"))) (.bound (.int 1))).IsGrouped :=
    ⟨rfl, rfl, ⟨rfl, rfl, trivial, trivial⟩, trivial⟩
  refine ⟨tells, fun h => ?_⟩
  have same := (Database.outcome_operators { dialect := .generic } tells 0 0 _ _).2.2 left right h
  cases same

/-- Two different trees that are rendered to the same query. -/
def Dialect.Confuses (d : Dialect) (t t' : OperatorTree) (q : RenderedQuery) : Prop :=
  t ≠ t' ∧ (Database.render { dialect := d } 0 t.expr).outcome = .ok q ∧
    (Database.render { dialect := d } 0 t'.expr).outcome = .ok q

/-- **What is undone.** Without parentheses, operators that are nested differently are rendered
alike. So are different operands in a dialect whose placeholders look like a name, in one that has
no mark around names, and in one whose mark has a space in it. -/
theorem Database.operators_undone :
    Dialect.generic.Confuses (both (named "a") (either (named "b") (named "c")))
        (either (both (named "a") (named "b")) (named "c"))
        ⟨"\"a\" AND \"b\" OR \"c\"", []⟩ ∧
      Dialect.Confuses { Dialect.generic with placeholder := fun _ => "\"a\"" }
        (equals (named "a") (.bound (.int 1))) (equals (.bound (.int 1)) (named "a"))
        ⟨"\"a\" = \"a\"", [.int 1]⟩ ∧
      Dialect.Confuses { Dialect.generic with identifierQuote := "" }
        (equals (named "a") (named "b = c")) (equals (named "a = b") (named "c"))
        ⟨"a = b = c", []⟩ ∧
      Dialect.Confuses { Dialect.generic with identifierQuote := "= =" }
        (equals (named "") (named " =c")) (equals (named "= ") (named "c"))
        ⟨"= == = = = = =c= =", []⟩ := by
  simp only [Dialect.Confuses, Database.outcome_eq, both, either, equals, named, OperatorTree.expr,
    ColumnName.expr, Expr.column, Expr.absent, Option.elim, Expr.render, Expr.draft,
    Expr.piece_node, Node.map]
  refine ⟨⟨?_, ?_, ?_⟩, ⟨?_, ?_, ?_⟩, ⟨?_, ?_, ?_⟩, ⟨?_, ?_, ?_⟩⟩
  · simp
  · cbv
  · cbv
  · simp
  · cbv
  · cbv
  · simp
  · cbv
  · cbv
  · simp
  · cbv
  · cbv

end SqlRender
