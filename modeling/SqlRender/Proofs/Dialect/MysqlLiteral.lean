import SqlRender.Dialect.Builtin
import SqlRender.Expr.Build
import SqlRender.Proofs.Render.Running
import SqlRender.Proofs.Text.Quoting

/-!
# Text literals as MySQL reads them

In its default mode MySQL knows two escapes inside a text literal: a mark written twice stands for
one mark, and a backslash changes the character after it. Quoting here knows the first only. So a
text with backslashes is in general not read back, and it may not even end where its literal does.

The main statement is `Expr.mysql_string_reads_back`, which says exactly which texts are read back
and which end where they should. Both need a look at the whole text: backslashes pair up, and one
that is left over meets either a mark of the text or the closing one. That such a text cannot be
read back by accident is a matter of counting (`read_bound`): a reader never gives more characters
than it has consumed, marks counted half.
-/

namespace SqlRender.MysqlLiteral

open Text

/-- What a character stands for after a backslash. Wildcards of patterns keep the backslash, so that
the pattern can have it. -/
def escaped : Char → List Char
  | '0' => ['\x00']
  | 'b' => ['\x08']
  | 'n' => ['\n']
  | 'r' => ['\r']
  | 't' => ['\t']
  | 'Z' => ['\x1a']
  | '%' => ['\\', '%']
  | '_' => ['\\', '_']
  | c => [c]

/-- Where a reader is: among the characters of a literal, after a backslash, or after a mark that is
the closing one unless another one follows. -/
inductive Place where
  | inside
  | escape
  | mark

/-- The text of the rest of a literal, and what follows the literal. -/
def read : Place → List Char → Option (List Char × List Char)
  | .inside, [] => none
  | .inside, c :: cs =>
    if c = '\'' then read .mark cs
    else if c = '\\' then read .escape cs
    else (read .inside cs).map fun r => (c :: r.1, r.2)
  | .escape, [] => none
  | .escape, c :: cs => (read .inside cs).map fun r => (escaped c ++ r.1, r.2)
  | .mark, [] => some ([], [])
  | .mark, c :: cs =>
    if c = '\'' then (read .inside cs).map fun r => (c :: r.1, r.2) else some ([], c :: cs)

/-- The text of a literal, and what follows it. -/
def readLiteral : List Char → Option (List Char × List Char)
  | [] => none
  | c :: cs => if c = '\'' then read .inside cs else none

/-- Whether every backslash stands before a wildcard. -/
def keepsBackslashes : List Char → Bool
  | [] => true
  | c :: cs =>
    (c ≠ '\\' || cs.head? = some '%' || cs.head? = some '_') && keepsBackslashes cs

/-- Whether no backslash that is left over when backslashes pair up stands before a mark or at the
end. -/
def closes (escaping : Bool) : List Char → Bool
  | [] => !escaping
  | c :: cs => if escaping then c ≠ '\'' && closes false cs else closes (c = '\\') cs

section Step

variable {c : Char} {cs x rest : List Char}

theorem read_escape :
    read .escape (c :: cs) = some (x, rest) ↔
      ∃ y, read .inside cs = some (y, rest) ∧ escaped c ++ y = x := by
  simp [read, Option.map_eq_some_iff]

theorem read_mark_mark :
    read .mark ('\'' :: cs) = some (x, rest) ↔
      ∃ y, read .inside cs = some (y, rest) ∧ '\'' :: y = x := by
  simp [read, Option.map_eq_some_iff]

theorem read_mark_of_ne (h : c ≠ '\'') : read .mark (c :: cs) = some ([], c :: cs) := by
  simp [read, h]

theorem read_inside_mark : read .inside ('\'' :: cs) = read .mark cs := by
  simp [read]

theorem read_inside_backslash : read .inside ('\\' :: cs) = read .escape cs := by
  simp [read]

theorem read_inside_of_ne (hmark : c ≠ '\'') (hback : c ≠ '\\') :
    read .inside (c :: cs) = some (x, rest) ↔
      ∃ y, read .inside cs = some (y, rest) ∧ c :: y = x := by
  simp [read, hmark, hback, Option.map_eq_some_iff]

end Step

/-- What a reader may give for the characters it consumes, in halves of a character: a mark is
either one of two or the end. -/
def weight : List Char → Nat
  | [] => 0
  | c :: cs => (if c = '\'' then 1 else 2) + weight cs

/-- What a reader may give besides, for what it consumed to get to its place. -/
def Place.slack : Place → Nat
  | .inside => 0
  | .mark => 1
  | .escape => 2

theorem weight_append (cs ds : List Char) : weight (cs ++ ds) = weight cs + weight ds := by
  induction cs with
  | nil => simp [weight]
  | cons c cs ih => simp [weight, ih, Nat.add_assoc]

/-- Doubled marks weigh as much as any other character. -/
theorem weight_doubled (cs : List Char) : weight (doubled '\'' cs) = 2 * cs.length := by
  induction cs with
  | nil => rfl
  | cons c cs ih =>
      by_cases h : c = '\''
      · subst h
        simp [weight, ih]
        omega
      · rw [doubled_cons_of_ne h]
        simp [weight, ih, h]
        omega

theorem length_escaped (c : Char) : (escaped c).length ≤ 2 := by
  unfold escaped
  split <;> simp

/-- A reader gives no more than what it consumes weighs, the end being for nothing. -/
theorem read_bound {place : Place} {cs x rest : List Char} (h : read place cs = some (x, rest)) :
    ∃ used, cs = used ++ rest ∧ 2 * x.length + 1 ≤ weight used + place.slack := by
  induction cs generalizing place x with
  | nil =>
      cases place with
      | inside => cases h
      | escape => cases h
      | mark =>
          cases h
          exact ⟨[], rfl, by simp [weight, Place.slack]⟩
  | cons c cs ih =>
      -- what a character gives is paid for by its weight and by the place that it is read at
      have step {next : Place} {y : List Char} (hread : read next cs = some (y, rest))
          (hle : 2 * x.length + next.slack ≤
            2 * y.length + (if c = '\'' then 1 else 2) + place.slack) :
          ∃ used, c :: cs = used ++ rest ∧ 2 * x.length + 1 ≤ weight used + place.slack := by
        obtain ⟨used, rfl, bound⟩ := ih hread
        exact ⟨c :: used, rfl, by rw [weight]; omega⟩
      by_cases hc : c = '\''
      · subst hc
        cases place with
        | inside =>
            rw [read_inside_mark] at h
            exact step h (by simp [Place.slack])
        | escape =>
            obtain ⟨y, hread, rfl⟩ := read_escape.1 h
            exact step hread (by simp [escaped, Place.slack]; omega)
        | mark =>
            obtain ⟨y, hread, rfl⟩ := read_mark_mark.1 h
            exact step hread (by simp [Place.slack]; omega)
      · cases place with
        | inside =>
            by_cases hback : c = '\\'
            · subst hback
              rw [read_inside_backslash] at h
              exact step h (by simp [Place.slack])
            · obtain ⟨y, hread, rfl⟩ := (read_inside_of_ne hc hback).1 h
              exact step hread (by simp [hc, Place.slack]; omega)
        | escape =>
            obtain ⟨y, hread, rfl⟩ := read_escape.1 h
            have hlen := length_escaped c
            exact step hread (by simp [hc, Place.slack]; omega)
        | mark =>
            rw [read_mark_of_ne hc] at h
            cases h
            exact ⟨[], rfl, by simp [weight, Place.slack]⟩

/-- A literal takes at least its closing mark, so what follows it is shorter. -/
theorem read_ne_self (cs x : List Char) : read .inside cs ≠ some (x, cs) := by
  intro h
  obtain ⟨used, hused, bound⟩ := read_bound h
  have hnil : used = [] := List.self_eq_append_left.1 hused
  subst hnil
  simp [weight, Place.slack] at bound

section

variable {rest : List Char}

/-- What is read of a token, if it ends where it should, is no longer than the text of the token. -/
theorem length_le_of_read {cs x : List Char}
    (h : read .inside (doubled '\'' cs ++ '\'' :: rest) = some (x, rest)) :
    x.length ≤ cs.length := by
  obtain ⟨used, hused, bound⟩ := read_bound h
  have hsplit : doubled '\'' cs ++ ['\''] = used := by
    refine List.append_cancel_right (?_ : _ ++ rest = _ ++ rest)
    rw [← hused]
    simp
  have hone : weight ['\''] = 1 := rfl
  rw [← hsplit, weight_append, weight_doubled, hone] at bound
  simp only [Place.slack] at bound
  omega

/-- A mark that is left single before a token's text makes the token end early or not at all. -/
theorem read_mark_ne (cs x : List Char) :
    read .mark (doubled '\'' cs ++ '\'' :: rest) ≠ some (x, rest) := by
  induction cs generalizing x with
  | nil =>
      intro h
      obtain ⟨y, hread, -⟩ := read_mark_mark.1 h
      exact read_ne_self rest y hread
  | cons c cs ih =>
      intro h
      by_cases hc : c = '\''
      · subst hc
        rw [doubled_cons_mark] at h
        obtain ⟨y, hread, -⟩ := read_mark_mark.1 h
        exact ih y (read_inside_mark.symm.trans hread)
      · -- the token ends here, with more left over than there should be
        rw [doubled_cons_of_ne hc, List.cons_append, read_mark_of_ne hc] at h
        have hlen := congrArg (Option.map fun r => r.2.length) h
        simp at hlen
        omega

/-- A token that ends where it should is one of a text that pairs up. -/
theorem closes_of_read {cs x : List Char} (escaping : Bool)
    (h : read (if escaping then .escape else .inside) (doubled '\'' cs ++ '\'' :: rest) =
      some (x, rest)) :
    closes escaping cs = true := by
  induction cs generalizing escaping x with
  | nil =>
      cases escaping with
      | false => rfl
      | true =>
          -- the closing mark is taken for a character
          obtain ⟨y, hread, -⟩ := read_escape.1 h
          exact absurd hread (read_ne_self rest y)
  | cons c cs ih =>
      by_cases hmark : c = '\''
      · subst hmark
        rw [doubled_cons_mark] at h
        cases escaping with
        | true =>
            -- the first of the two marks is taken for a character, and the second is left single
            obtain ⟨y, hread, -⟩ := read_escape.1 h
            exact absurd (read_inside_mark.symm.trans hread) (read_mark_ne cs y)
        | false =>
            obtain ⟨y, hread, -⟩ := read_mark_mark.1 (read_inside_mark.symm.trans h)
            exact ih false hread
      · rw [doubled_cons_of_ne hmark] at h
        cases escaping with
        | true =>
            obtain ⟨y, hread, -⟩ := read_escape.1 h
            simpa [closes, hmark] using ih false hread
        | false =>
            by_cases hback : c = '\\'
            · subst hback
              exact ih true (read_inside_backslash.symm.trans h)
            · obtain ⟨y, hread, -⟩ := (read_inside_of_ne hmark hback).1 h
              simpa [closes, hback] using ih false hread

/-- What is given for a character after a backslash starts with one only for wildcards and for the
backslash itself. -/
theorem escaped_eq_cons {c : Char} {xs ys : List Char} (h : escaped c ++ xs = '\\' :: ys) :
    (c = '%' ∨ c = '_') ∧ ys = c :: xs ∨ c = '\\' ∧ ys = xs := by
  unfold escaped at h
  split at h <;> simp_all

/-- A text that is read back has all its backslashes before wildcards. Two backslashes would give
one, and what comes after cannot make up for the other. -/
theorem keeps_of_read (cs : List Char)
    (h : read .inside (doubled '\'' cs ++ '\'' :: rest) = some (cs, rest)) :
    keepsBackslashes cs = true := by
  match cs with
  | [] => rfl
  | c :: cs =>
      by_cases hmark : c = '\''
      · subst hmark
        rw [doubled_cons_mark] at h
        obtain ⟨y, hread, hy⟩ := read_mark_mark.1 (read_inside_mark.symm.trans h)
        cases hy
        simpa [keepsBackslashes] using keeps_of_read cs hread
      · rw [doubled_cons_of_ne hmark] at h
        by_cases hback : c = '\\'
        · subst hback
          rw [List.cons_append, read_inside_backslash] at h
          match cs with
          | [] =>
              obtain ⟨y, -, hy⟩ := read_escape.1 h
              cases hy
          | d :: cs =>
              by_cases hd : d = '\''
              · subst hd
                rw [doubled_cons_mark] at h
                obtain ⟨y, -, hy⟩ := read_escape.1 h
                cases hy
              · rw [doubled_cons_of_ne hd] at h
                obtain ⟨y, hread, hy⟩ := read_escape.1 h
                rcases escaped_eq_cons hy with ⟨hwild, hcons⟩ | ⟨-, hcons⟩
                · cases hcons
                  have hrest := keeps_of_read cs hread
                  rcases hwild with rfl | rfl
                  · simpa [keepsBackslashes] using hrest
                  · simpa [keepsBackslashes] using hrest
                · -- two backslashes gave one, so the rest would have to give one more than it has
                  subst hcons
                  have hlen := length_le_of_read hread
                  rw [List.length_cons] at hlen
                  omega
        · obtain ⟨y, hread, hy⟩ := (read_inside_of_ne hmark hback).1 h
          cases hy
          simpa [keepsBackslashes, hback] using keeps_of_read cs hread

variable (first : rest.head? ≠ some '\'')

include first

theorem read_closing : read .inside ('\'' :: rest) = some ([], rest) := by
  rw [read_inside_mark]
  cases rest with
  | nil => rfl
  | cons c cs => exact read_mark_of_ne (by simpa using first)

/-- The token of a text that pairs up ends where it should. -/
theorem read_of_closes (cs : List Char) (escaping : Bool) (h : closes escaping cs = true) :
    ∃ x, read (if escaping then .escape else .inside) (doubled '\'' cs ++ '\'' :: rest) =
      some (x, rest) := by
  induction cs generalizing escaping with
  | nil =>
      cases escaping with
      | true => cases h
      | false => exact ⟨[], read_closing first⟩
  | cons c cs ih =>
      cases escaping with
      | true =>
          have hc : c ≠ '\'' ∧ closes false cs = true := by simpa [closes] using h
          obtain ⟨x, hx⟩ := ih false hc.2
          rw [doubled_cons_of_ne hc.1]
          exact ⟨escaped c ++ x, read_escape.2 ⟨x, hx, rfl⟩⟩
      | false =>
          obtain ⟨x, hx⟩ := ih (c = '\\') h
          by_cases hmark : c = '\''
          · subst hmark
            rw [doubled_cons_mark]
            exact ⟨'\'' :: x, read_inside_mark.trans (read_mark_mark.2 ⟨x, hx, rfl⟩)⟩
          · rw [doubled_cons_of_ne hmark]
            by_cases hback : c = '\\'
            · subst hback
              exact ⟨x, read_inside_backslash.trans hx⟩
            · rw [decide_eq_false hback] at hx
              exact ⟨c :: x, (read_inside_of_ne hmark hback).2 ⟨x, hx, rfl⟩⟩

/-- A text whose backslashes all stand before wildcards is read back. -/
theorem read_of_keeps (cs : List Char) (h : keepsBackslashes cs = true) :
    read .inside (doubled '\'' cs ++ '\'' :: rest) = some (cs, rest) := by
  match cs with
  | [] => exact read_closing first
  | c :: cs =>
      rw [keepsBackslashes, Bool.and_eq_true] at h
      by_cases hmark : c = '\''
      · subst hmark
        rw [doubled_cons_mark]
        exact read_inside_mark.trans (read_mark_mark.2 ⟨cs, read_of_keeps cs h.2, rfl⟩)
      · rw [doubled_cons_of_ne hmark]
        by_cases hback : c = '\\'
        · subst hback
          match cs with
          | [] => simp at h
          | d :: cs =>
              have hd : d = '%' ∨ d = '_' := by simpa using h.1
              have hkeep : keepsBackslashes cs = true := by
                rw [keepsBackslashes, Bool.and_eq_true] at h
                exact h.2.2
              have hread := read_of_keeps cs hkeep
              refine read_inside_backslash.trans ?_
              rcases hd with rfl | rfl
              · exact read_escape.2 ⟨cs, hread, rfl⟩
              · exact read_escape.2 ⟨cs, hread, rfl⟩
        · exact (read_inside_of_ne hmark hback).2 ⟨cs, read_of_keeps cs h.2, rfl⟩

end

/-- What comes of reading the token of a text and more after it: when the text is read back and
nothing of the rest is touched, and when at least the token ends where it should. -/
structure Reading (token text rest : String) : Prop where
  reads_back : readLiteral (token ++ rest).toList = some (text.toList, rest.toList) ↔
    keepsBackslashes text.toList = true
  ends_there : (∃ x, readLiteral (token ++ rest).toList = some (x, rest.toList)) ↔
    closes false text.toList = true

theorem reading_quoteString (text : String) {rest : String}
    (first : rest.toList.head? ≠ some '\'') :
    Reading (Dialect.mysql.quoteString text) text rest := by
  have htoken : (Dialect.mysql.quoteString text ++ rest).toList =
      '\'' :: (doubled '\'' text.toList ++ '\'' :: rest.toList) := by
    have hmark : Dialect.mysql.stringQuote.toList = ['\''] := by decide
    rw [Grammar.quoteString, String.toList_append, toList_quote hmark]
    simp
  constructor
  · rw [htoken, readLiteral, if_pos rfl]
    exact ⟨keeps_of_read _, read_of_keeps first _⟩
  · rw [htoken, readLiteral, if_pos rfl]
    constructor
    · rintro ⟨x, hx⟩
      exact closes_of_read false hx
    · exact read_of_closes first _ false

end MysqlLiteral

open MysqlLiteral

/-- **When MySQL reads a literal back.** The rendered literal of a text, with anything but a mark
after it, is read as this text with nothing else touched exactly if every backslash of the text
stands before a wildcard, and it ends where it should exactly if no backslash is left over before a
mark or at the end. The same goes for the path of a JSON value, which is a literal of the keys
joined. -/
theorem Expr.mysql_string_reads_back (v rest : String) (first : rest.toList.head? ≠ some '\'') :
    (∃ s, (Expr.string v).render .mysql {} = .ok () s ∧ Reading s.sql v rest) ∧
      ∀ keys : List String, ∃ token,
        JsonAccess.path Dialect.mysql.toGrammar keys = .text token ∧
          Reading token ("$." ++ ".".intercalate keys) rest := by
  constructor
  · have hrender : (Expr.string v).render .mysql {} =
        Rendering.write (Dialect.mysql.quoteString v) {} := rfl
    obtain ⟨s, hs⟩ : ∃ s, Rendering.write (Dialect.mysql.quoteString v) {} = .ok () s := ⟨_, rfl⟩
    refine ⟨s, hrender.trans hs, ?_⟩
    have hsql := (Rendering.sql_of_write hs).1
    rw [Serializer.sql_nil, String.empty_append] at hsql
    rw [hsql]
    exact reading_quoteString v first
  · intro keys
    exact ⟨_, rfl, reading_quoteString _ first⟩

theorem Expr.mysql_string_reads_back_note :
    " AS note".toList.head? ≠ some '\'' ∧
      ∃ s, (Expr.string "it's 5\\% off").render .mysql {} = .ok () s ∧
        readLiteral (s.sql ++ " AS note").toList =
          some ("it's 5\\% off".toList, " AS note".toList) := by
  have first : " AS note".toList.head? ≠ some '\'' := by decide
  obtain ⟨s, hs, reading⟩ := (mysql_string_reads_back "it's 5\\% off" " AS note" first).1
  exact ⟨first, s, hs, reading.reads_back.2 (by decide)⟩

/-- A backslash before a mark ends the literal early, and the rest of the text is read as SQL. -/
example : readLiteral (Dialect.mysql.quoteString "\\' OR 1=1 -- ").toList =
    some (['\''], " OR 1=1 -- '".toList) := by
  decide +kernel

end SqlRender
