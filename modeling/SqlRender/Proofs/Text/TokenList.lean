import SqlRender.Proofs.Text.Quoting

/-!
# Lists of quoted tokens

Texts that were quoted and put into parentheses with commas between them are read back one by one
(`readList_listText`). The reader looks for a comma or a parenthesis only where a token is over, so
that commas, parentheses and marks inside the texts do not confuse it.
-/

namespace SqlRender.Text

/-- The text of a list: quoted tokens in parentheses with commas between them. -/
def listText (mark : String) (texts : List String) : String :=
  "(" ++ ", ".intercalate (texts.map (quote mark)) ++ ")"

/-- The texts of tokens with commas between them up to the parenthesis that closes them, and what
follows it. -/
def readTokens (mark : Char) (cs : List Char) : Option (List String × List Char) :=
  match _read : readQuoted mark cs with
  | some (text, ')' :: rest) => some ([text], rest)
  | some (text, ',' :: ' ' :: rest) => (readTokens mark rest).map fun r => (text :: r.1, r.2)
  | _ => none
termination_by cs.length
decreasing_by
  have hlt := length_of_readQuoted _read
  simp only [List.length_cons] at hlt
  omega

/-- The texts of a list and what follows it. -/
def readList (mark : Char) : List Char → Option (List String × List Char)
  | '(' :: ')' :: rest => some ([], rest)
  | '(' :: cs => readTokens mark cs
  | _ => none

variable {mark : String} {m : Char}

theorem readTokens_intercalate (h : mark.toList = [m]) (comma : m ≠ ',') (closing : m ≠ ')')
    (text : String) (texts : List String) (rest : List Char) :
    readTokens m ((", ".intercalate ((text :: texts).map (quote mark))).toList ++ ')' :: rest) =
      some (text :: texts, rest) := by
  induction texts generalizing text with
  | nil =>
      have hnext : (')' :: rest).head? ≠ some m :=
        fun hhead => closing (Option.some.inj hhead).symm
      rw [List.map_singleton, String.intercalate_singleton, readTokens,
        readQuoted_quote h hnext]
      rfl
  | cons next texts ih =>
      have hlist : (", ".intercalate ((text :: next :: texts).map (quote mark))).toList ++
          ')' :: rest = (quote mark text).toList ++ ',' :: ' ' ::
            ((", ".intercalate ((next :: texts).map (quote mark))).toList ++ ')' :: rest) := by
        rw [List.map_cons, List.map_cons, String.intercalate_cons_cons]
        simp
      have hnext (more : List Char) : (',' :: more).head? ≠ some m :=
        fun hhead => comma (Option.some.inj hhead).symm
      rw [hlist, readTokens, readQuoted_quote h (hnext _)]
      simp only [ih]
      rfl

/-- A list is read back, whatever its texts and whatever follows it. -/
theorem readList_listText (h : mark.toList = [m]) (comma : m ≠ ',') (closing : m ≠ ')')
    (texts : List String) (rest : List Char) :
    readList m ((listText mark texts).toList ++ rest) = some (texts, rest) := by
  cases texts with
  | nil =>
      have hlist : (listText mark []).toList ++ rest = '(' :: ')' :: rest := by
        simp [listText]
      rw [hlist, readList]
  | cons text texts =>
      have hlist : (listText mark (text :: texts)).toList ++ rest =
          '(' :: ((", ".intercalate ((text :: texts).map (quote mark))).toList ++ ')' :: rest) := by
        simp [listText]
      -- a token comes first, so that the list is not taken for the empty one
      have hnext : ∀ more, (", ".intercalate ((text :: texts).map (quote mark))).toList ++
          ')' :: rest ≠ ')' :: more := by
        intro more heq
        have hread := readTokens_intercalate h comma closing text texts rest
        rw [heq, readTokens, readQuoted, if_neg (fun hmark => closing hmark.symm)] at hread
        cases hread
      rw [hlist, readList]
      · exact readTokens_intercalate h comma closing text texts rest
      · exact hnext

/-- The list that stands in a text after something that is known, and what follows the list. -/
def readListAfter (mark : Char) (before text : String) : Option (List String × List Char) :=
  if before.toList.isPrefixOf text.toList then readList mark (text.toList.drop before.toList.length)
  else none

theorem readListAfter_listText (h : mark.toList = [m]) (comma : m ≠ ',') (closing : m ≠ ')')
    (before : String) (texts : List String) (rest : String) :
    readListAfter m before (before ++ listText mark texts ++ rest) = some (texts, rest.toList) := by
  have hlist : (before ++ listText mark texts ++ rest).toList =
      before.toList ++ ((listText mark texts).toList ++ rest.toList) := by
    simp
  rw [readListAfter, hlist, if_pos (by simp), List.drop_left, readList_listText h comma closing]

end SqlRender.Text
